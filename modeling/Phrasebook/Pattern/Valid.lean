import Phrasebook.SetupError

/-!
# Valid patterns

One walk over a pattern checks that its brackets are balanced, that bars stand
inside parentheses, that placeholders are closed and not empty, and that
regular expression slots are closed.
-/

namespace Phrasebook.Pattern

/-- Where the walk over a pattern is. -/
inductive Region where
  /-- In the plain part of the pattern, with the closing brackets still owed,
  innermost first. -/
  | plain (owed : List Char)
  /-- Just after the first percent sign of a placeholder. -/
  | placeholderStart (owed : List Char)
  /-- Further inside a placeholder. -/
  | placeholder (owed : List Char)
  /-- Inside a regular expression slot. -/
  | regex (owed : List Char)

/-- The first fault found from a region on. -/
def faultFrom : Region → Text → Option PatternFault
  | .plain [], [] => none
  | .plain (bracket :: _), [] => some (.missingClosing bracket)
  | .plain _, ['\\'] => some .trailingBackslash
  | .plain owed, '\\' :: _ :: rest => faultFrom (.plain owed) rest
  | .plain owed, char :: rest =>
      if char = '(' then faultFrom (.plain (')' :: owed)) rest
      else if char = '[' then faultFrom (.plain (']' :: owed)) rest
      else if char = ')' || char = ']' then
        match owed with
        | [] => some (.unexpectedClosing char)
        | bracket :: outer =>
            if bracket = char then faultFrom (.plain outer) rest
            else some (.unexpectedClosing char)
      else if char = '|' && !owed.contains ')' then some .barOutsideGroup
      else if char = '%' then faultFrom (.placeholderStart owed) rest
      else if char = '<' then faultFrom (.regex owed) rest
      else faultFrom (.plain owed) rest
  | .placeholderStart _, [] => some .oddPercents
  | .placeholderStart _, ['\\'] => some .oddPercents
  | .placeholderStart owed, '\\' :: _ :: rest => faultFrom (.placeholder owed) rest
  | .placeholderStart owed, char :: rest =>
      if char = '%' then some .emptyPlaceholder
        else faultFrom (.placeholder owed) rest
  | .placeholder _, [] => some .oddPercents
  | .placeholder _, ['\\'] => some .oddPercents
  | .placeholder owed, '\\' :: _ :: rest => faultFrom (.placeholder owed) rest
  | .placeholder owed, char :: rest =>
      if char = '%' then faultFrom (.plain owed) rest
        else faultFrom (.placeholder owed) rest
  | .regex _, [] => some .missingRegexEnd
  | .regex owed, char :: rest =>
      if char = '>' then faultFrom (.plain owed) rest
        else faultFrom (.regex owed) rest

/-- The first fault of a pattern, if it has any. -/
def fault? (pattern : Text) : Option PatternFault :=
  faultFrom (.plain []) pattern

/-- Fails with the first fault of the pattern. -/
def validate (pattern : Text) : Except SetupError Unit :=
  match fault? pattern with
  | none => .ok ()
  | some fault => .error (.malformedPattern pattern fault)

end Phrasebook.Pattern
