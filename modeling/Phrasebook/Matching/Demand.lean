import Phrasebook.Text

/-!
# What a pattern asks for next

A pattern is walked along as it is written.  Its next character says what the
input has to offer at this place.
-/

namespace Phrasebook

/-- What the rest of a pattern asks for first.  What lies inside of an opening
bracket or sign, and behind it, is kept along. -/
inductive Demand where
  | nothing
  | optional (inside : Text)
  | choice (inside : Text)
  | placeholder (inside : Text)
  | capture (inside : Text)
  /-- The end of an alternative other than the last one. -/
  | bar (inside : Text)
  /-- A closing bracket, which asks for nothing. -/
  | closing
  | space
  /-- A backslash that escapes nothing. -/
  | loneBackslash
  /-- A literal character, written with so many characters. -/
  | letter (letter : Char) (length : Nat)
  deriving DecidableEq

namespace Demand

/-- What the text, as the rest of a pattern, asks for first. -/
def ofText : Text → Demand
  | [] => .nothing
  | ['\\'] => .loneBackslash
  | '\\' :: escaped :: _ => .letter escaped 2
  | char :: inside =>
      if char = '[' then .optional inside
      else if char = '(' then .choice inside
      else if char = '%' then .placeholder inside
      else if char = '<' then .capture inside
      else if char = '|' then .bar inside
      else if char = ')' || char = ']' then .closing
      else if char = ' ' then .space
      else .letter char 1

end Demand

end Phrasebook
