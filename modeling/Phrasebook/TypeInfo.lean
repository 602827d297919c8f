import Phrasebook.Datum
import Phrasebook.Noun

/-!
# Types

A type names the values that a placeholder may take.  What is known of a type
apart from its literals and its default expression is plain data.
-/

namespace Phrasebook

/-- The data that a type ranges over. -/
inductive Domain where
  | anything
  | number
  | integer
  | fraction
  | text
  | truth
  | item
  | player
  | block
  /-- No plain data: the values are syntax elements that describe entities. -/
  | entityKind
  deriving DecidableEq

/-- Where the text being parsed comes from. -/
inductive ParseContext where
  | script
  | event
  | command
  deriving DecidableEq

/-- A type as patterns and messages know it. -/
structure TypeInfo where
  name : Text
  plural : Text
  /-- The name shown in messages. -/
  displayName : Text
  supertypes : List Text
  domain : Domain
  deriving DecidableEq

namespace Domain

/-- Whether the datum lies in the domain.  A truth value is also an integer, and
an integer is also a number. -/
def admits : Domain → Datum → Bool
  | .anything, _ => true
  | .number, .int _ | .number, .fraction _ | .number, .bool _ => true
  | .integer, .int _ | .integer, .bool _ => true
  | .fraction, .fraction _ => true
  | .text, .text _ => true
  | .truth, .bool _ => true
  | .item, .item _ => true
  | .player, .player _ | .player, .resident _ => true
  | .block, .block _ _ => true
  | _, _ => false

end Domain

namespace TypeInfo

def universalName : Text := "object"

/-- A type whose plural is formed by the rules of English and whose shown name is
its own. -/
def named (name : Text) (domain : Domain) : TypeInfo :=
  ⟨name, Noun.plural name, name, [], domain⟩

/-- The type with what is left empty filled in: the plural by the rules of English,
and the shown name by the name itself. -/
def completed (type : TypeInfo) : TypeInfo :=
  { type with
    plural := if type.plural.isEmpty then Noun.plural type.name else type.plural
    displayName := if type.displayName.isEmpty then type.name
      else type.displayName }

def object : TypeInfo :=
  named universalName .anything

def isUniversal (type : TypeInfo) : Bool :=
  type.name == universalName

end TypeInfo

end Phrasebook
