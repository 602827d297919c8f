import Phrasebook.Conversion
import Phrasebook.Matching

/-!
# Resolution

The resolver turns the text taken by a placeholder into an expression of the
wanted type.  It tries a variable, then the registered expressions, then a
literal.
-/

namespace Phrasebook

/-- An element that computes values, and the name of their type. -/
structure ComputedElement where
  element : Element
  returnType : Text

/-- What resolving depends on. -/
structure Resolver (m : Type → Type) where
  registry : Registry
  context : ParseContext
  /-- Whether only literals are allowed. -/
  literalOnly : Bool
  /-- Parses a text against the registered expressions. -/
  parseNested : Text → m (Option ComputedElement)
  read : LiteralReading

namespace Resolver

variable {m : Type → Type} [Searching m]

/-- The text as a literal of the type, if it is one. -/
def literal? (resolver : Resolver m) (type : RegisteredType) (text : Text) :
    Except SetupError (Option Expr) :=
  let stripped := Text.strip text
  if type.isUniversal then .ok (some (.unparsed stripped))
  else if stripped.isEmpty then .ok none
  else (Expr.unparsed stripped).convert resolver.registry resolver.read type
    resolver.context

/-- The text as a literal of the type; a text that is none leaves a record. -/
def resolveLiteral (resolver : Resolver m) (type : RegisteredType) (text : Text) :
    m (Option Expr) := do
  match ← Searching.lift (resolver.literal? type text) with
  | some expr => pure (some expr)
  | none => do
      Searching.record .notAnExpression (ErrorMessage.notA text type.toTypeInfo)
      pure none

def resolveComputed (resolver : Resolver m) (type : RegisteredType)
    (computed : ComputedElement) :
    m (Option Expr) := do
  let own ← Searching.lift (resolver.registry.getType computed.returnType)
  let expr := Expr.computed computed.element own.toTypeInfo none
  match ← Searching.lift
      (expr.convert resolver.registry resolver.read type resolver.context) with
  | some converted => pure (some converted)
  | none => do
      Searching.record .wrongType (ErrorMessage.wrongType expr type.toTypeInfo)
      pure none

def resolve (resolver : Resolver m) (type : RegisteredType) (text : Text) :
    m (Option Expr) :=
  if resolver.literalOnly then resolver.resolveLiteral type text
  else
    match Expr.readVariable? text type.toTypeInfo with
    | some reference => pure (some reference)
    | none => do
        match ← resolver.parseNested text with
        | some computed => resolver.resolveComputed type computed
        | none => resolver.resolveLiteral type text

end Resolver

end Phrasebook
