import Phrasebook.Number.Reading
import Phrasebook.SetupError

/-!
# Placeholders

Between its percent signs a placeholder names a type, in the singular or the
plural.  A dash before the name lets the placeholder stay unbound, and an `@`
after it introduces a time state.
-/

namespace Phrasebook

/-- What a placeholder asks for. -/
structure Placeholder where
  /-- The type, in the singular. -/
  name : Text
  plural : Bool
  /-- Negative for the past, positive for the future, 0 for no state. -/
  time : Int
  optional : Bool
  deriving DecidableEq

namespace Placeholder

def splitDash : Text → Bool × Text
  | '-' :: rest => (true, rest)
  | written => (false, written)

/-- Reads what stands between the percent signs, given the singular form and the
number of each type name. -/
def read (normalize : Text → Text × Bool) (written : Text) :
    Except SetupError Placeholder :=
  let (dashed, inner) := splitDash written
  let (typeName, timeText) := Text.partition '@' inner
  let (name, plural) := normalize typeName
  match timeText with
  | none => .ok ⟨name, plural, 0, dashed⟩
  | some timeText =>
      match Text.readGroupedInteger? timeText with
      | some time => .ok ⟨name, plural, time, dashed⟩
      | none => .error (.malformedPattern inner (.badTimeState timeText))

end Placeholder

end Phrasebook
