import Phrasebook.Registry

/-!
# Default expressions

A placeholder that the input leaves out is filled with the default expression of
its type, unless it is marked with a dash.
-/

namespace Phrasebook

namespace Registry

/-- The default expression for a placeholder.  It has to fit the placeholder in
number and time; if it does not, the pattern is wrong. -/
def bindDefault (registry : Registry) (placeholder : Placeholder) :
    Except SetupError Expr :=
  match registry.default? placeholder.name with
  | none => .error (.noDefault placeholder.name)
  | some element =>
      if !placeholder.plural && !element.single then
        .error (.defaultNotSingle placeholder.name)
      else do
        let timed ←
          if placeholder.time = 0 then pure element
          else
            match element.setTime placeholder.time with
            | some timed => pure timed
            | none => .error (.defaultWithoutTimes placeholder.name)
        let type ← registry.getType placeholder.name
        pure (.computed timed type.toTypeInfo none)

/-- Fills the empty slots of placeholders without a dash. -/
def fillSlots (registry : Registry) :
    List Text → List (Option Expr) → Except SetupError (List (Option Expr))
  | written :: rest, none :: exprs => do
      if (Placeholder.splitDash written).1 then
        pure (none :: (← registry.fillSlots rest exprs))
      else
        let placeholder ← Placeholder.read registry.normalize written
        let expr ← registry.bindDefault placeholder
        pure (some expr :: (← registry.fillSlots rest exprs))
  | _ :: rest, some expr :: exprs => do
      pure (some expr :: (← registry.fillSlots rest exprs))
  | _, exprs => .ok exprs

/-- The result of a match with its empty slots filled by default expressions. -/
def fillDefaults (registry : Registry) (pattern : Text) (result : MatchResult) :
    Except SetupError MatchResult := do
  let exprs ← registry.fillSlots (Pattern.placeholders pattern) result.exprs
  pure { result with exprs := exprs }

end Registry

end Phrasebook
