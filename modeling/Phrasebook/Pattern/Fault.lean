import Phrasebook.Text

/-!
# Faults of patterns

A pattern that breaks its grammar is a mistake of whoever registered it.  Each
way of breaking it is one constructor here.
-/

namespace Phrasebook

/-- What is wrong with a pattern. -/
inductive PatternFault where
  /-- A bracket is opened and never closed; the closing one is named. -/
  | missingClosing (bracket : Char)
  | trailingBackslash
  | unexpectedClosing (bracket : Char)
  | barOutsideGroup
  | oddPercents
  | emptyPlaceholder
  | missingRegexEnd
  | badTimeState (written : Text)
  | badRegex (body reason : Text)
  deriving DecidableEq

namespace PatternFault

def message : PatternFault → Text
  | .missingClosing bracket => "missing closing bracket '" ++ [bracket] ++ "'"
  | .trailingBackslash => "must not end with a backslash"
  | .unexpectedClosing bracket => "unexpected closing bracket '" ++ [bracket] ++ "'"
  | .barOutsideGroup => "'|' outside of a (...) group"
  | .oddPercents => "odd number of '%'"
  | .emptyPlaceholder => "empty placeholder '%%'"
  | .missingRegexEnd => "missing closing regex bracket '>'"
  | .badTimeState written => "invalid time state '" ++ written ++ "'"
  | .badRegex body reason => "invalid regex <" ++ body ++ ">: " ++ reason

end PatternFault

end Phrasebook
