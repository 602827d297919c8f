import Phrasebook.Number.Binary64
import Phrasebook.Text.Blank

/-!
# Reading numbers

Integer and decimal literals are made of the decimal digits of any script.
-/

namespace Phrasebook.Text

/-- Splits an optional sign off; the first part says whether it is a minus. -/
def splitSign : Text → Bool × Text
  | '-' :: rest => (true, rest)
  | '+' :: rest => (false, rest)
  | text => (false, text)

def signed (negative : Bool) (magnitude : Nat) : Int :=
  if negative then -(magnitude : Int) else magnitude

/-- Reads an integer literal: an optional sign and at least one digit, with no limit
to their number (see `ofInt`). -/
def readInteger? (text : Text) : Option Int :=
  let (negative, digits) := splitSign text
  if !digits.isEmpty && digits.all isDigit then
    some (signed negative (digitsValue digits))
  else none

/-- Reads a decimal literal: an optional sign, digits and a point followed by
digits.  The digits before the point may be missing. -/
def readDecimal? (text : Text) : Option Binary64 :=
  let (negative, unsigned) := splitSign text
  match partition '.' unsigned with
  | (whole, some places) =>
      if whole.all isDigit && !places.isEmpty && places.all isDigit then
        some (.ofDecimal negative ⟨digitsValue (whole ++ places), -places.length⟩)
      else none
  | (_, none) => none

/-- The digits of a number in which single underscores may stand between digits.
The flag says whether a digit has to come next. -/
def groupedDigits? (needsDigit : Bool) : Text → Option Text
  | [] => if needsDigit then none else some []
  | char :: rest =>
      if isDigit char then (groupedDigits? false rest).map (char :: ·)
      else if char = '_' && !needsDigit then groupedDigits? true rest
      else none

/-- Reads an integer more liberally: blanks around it and single underscores
between its digits are allowed. -/
def readGroupedInteger? (text : Text) : Option Int :=
  let (negative, digits) := splitSign (strip text)
  (groupedDigits? true digits).map fun plain => signed negative (digitsValue plain)

/-- Reads the written form of a fractional number, with or without an exponent. -/
def readBinary64? (text : Text) : Option Binary64 :=
  let (negative, unsigned) := splitSign text
  if unsigned = "inf" then some (.infinite negative)
  else if unsigned = "nan" then some .nan
  else
    let (significand, exponentText) := partition 'e' unsigned
    let (whole, places) := partition '.' significand
    let places := places.getD []
    let exponent := match exponentText with
      | none => some 0
      | some exponentText => readInteger? exponentText
    match exponent with
    | some exponent =>
        if (whole ++ places).all isDigit && !(whole ++ places).isEmpty then
          some (.ofDecimal negative ⟨digitsValue (whole ++ places),
            exponent - places.length⟩)
        else none
    | none => none

end Phrasebook.Text
