import Phrasebook.Number.Reading
import Phrasebook.Registry

/-!
# Built-in types

Every registry for scripts starts from objects, numbers, integers, texts and
truth values.
-/

namespace Phrasebook

namespace Literal

def integer (text : Text) (_context : ParseContext) : Option Value :=
  (Text.readInteger? text).map fun value => .datum (.int value)

/-- Reads a number: an integer, or else a decimal fraction. -/
def number (text : Text) (_context : ParseContext) : Option Value :=
  match Text.readInteger? text with
  | some value => some (.datum (.int value))
  | none => (Text.readDecimal? text).map fun value => .datum (.fraction value)

/-- Reads a quoted text.  An argument of a command is taken as it is. -/
def string (text : Text) (context : ParseContext) : Option Value :=
  match context with
  | .command => some (.datum (.text text))
  | _ => (Text.unquote? text).map fun value => .datum (.text value)

def boolean (text : Text) (_context : ParseContext) : Option Value :=
  let word := Text.lower text
  if (["true", "yes", "on"] : List Text).contains word then
    some (.datum (.bool true))
  else if (["false", "no", "off"] : List Text).contains word then
    some (.datum (.bool false))
  else none

/-- Reads one of a list of words, each of which stands for a datum. -/
def ofWords (words : List (Text × Datum)) (text : Text) (_context : ParseContext) :
    Option Value :=
  ((words.lookup text).filter fun data => !data.isNull).map .datum

end Literal

namespace RegisteredType

/-- A type with literals that a function reads, and without a default expression. -/
def ofReader (info : TypeInfo) (read : Text → ParseContext → Option Value) :
    RegisteredType :=
  ⟨info, .function read, none⟩

/-- The type of all values. -/
def object : RegisteredType :=
  ⟨TypeInfo.object, .none, none⟩

/-- Numbers of all kinds. -/
def number : RegisteredType :=
  ofReader (.named "number" .number) Literal.number

def integer : RegisteredType :=
  ofReader { TypeInfo.named "integer" .integer with supertypes := ["number"] }
    Literal.integer

def string : RegisteredType :=
  ofReader { TypeInfo.named "string" .text with displayName := "text" }
    Literal.string

def boolean : RegisteredType :=
  ofReader (.named "boolean" .truth) Literal.boolean

/-- The built-in types, in the order of their registration. -/
def builtins : List RegisteredType :=
  [object, number, integer, string, boolean]

end RegisteredType

namespace Registry

def registerTypes (registry : Registry) (types : List RegisteredType) :
    Except SetupError Registry :=
  types.foldlM registerType registry

def withBuiltins : Except SetupError Registry :=
  empty.registerTypes RegisteredType.builtins

end Registry

end Phrasebook
