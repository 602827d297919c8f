import Phrasebook.Number.Binary64

/-!
# The shortest decimal form

A fractional number is written with the fewest digits that read back as the
same number; among those the nearest decimal is taken.
-/

namespace Phrasebook.Binary64

/-- The number of decimal places before the point: the fraction lies from
`10 ^ (p - 1)` up to `10 ^ p`. -/
def pointPosition (numerator denominator : Nat) : Int :=
  let guess : Int := (Text.ofNat numerator).length - (Text.ofNat denominator).length
  let below :=
    if guess < 0 then numerator * Nat.pow 10 guess.natAbs < denominator
    else numerator < denominator * Nat.pow 10 guess.natAbs
  if below then guess else guess + 1

/-- Among the decimals with a given exponent, one that reads back as the number
of this magnitude: the nearer neighbour first, the even one on a tie. -/
def decimalAt (mantissa : Nat) (binary : Int) (exponent : Int) : Option Decimal :=
  let (numerator, denominator) := fraction mantissa binary
  let (top, bottom) :=
    if exponent < 0 then (numerator * Nat.pow 10 exponent.natAbs, denominator)
    else (numerator, denominator * Nat.pow 10 exponent.natAbs)
  let lower : Decimal := ⟨top / bottom, exponent⟩
  let upper : Decimal := ⟨top / bottom + 1, exponent⟩
  let nearer := roundQuotient top bottom
  let order := if nearer = lower.digits then [lower, upper] else [upper, lower]
  order.find? fun decimal => ofDecimal false decimal ==
    .finite false mantissa binary

/-- The first decimal that reads back, from one digit up; seventeen digits always
suffice. -/
def shortestFrom (mantissa : Nat) (binary : Int) (point : Int) : Nat → Nat → Decimal
  | _, 0 => ⟨0, 0⟩
  | digits, attempts + 1 =>
      match decimalAt mantissa binary (point - digits) with
      | some decimal => decimal
      | none => shortestFrom mantissa binary point (digits + 1) attempts

/-- The shortest decimal that reads back as the number of this magnitude. -/
def shortest (mantissa : Nat) (binary : Int) : Decimal :=
  let (numerator, denominator) := fraction mantissa binary
  shortestFrom mantissa binary (pointPosition numerator denominator) 1 17

/-- Digits with a decimal point after the given number of them; at least one
digit stands on either side. -/
def placePoint (digits : Text) (point : Int) : Text :=
  if point ≤ 0 then "0." ++ List.replicate point.natAbs '0' ++ digits
  else if point.natAbs < digits.length then
    digits.take point.natAbs ++ "." ++ digits.drop point.natAbs
  else digits ++ List.replicate (point.natAbs - digits.length) '0' ++ ".0"

/-- One digit before the point, and an exponent of at least two digits with its
sign. -/
def scientific (digits : Text) (exponent : Int) : Text :=
  let head :=
    match digits with
    | [] => []
    | [only] => [only]
    | first :: rest => first :: '.' :: rest
  let size := Text.ofNat exponent.natAbs
  head ++ (if exponent < 0 then "e-" else "e+") ++
    (if size.length < 2 then '0' :: size else size)

/-- The written magnitude: positional for exponents from -4 up to 15, and
scientific for all others. -/
def magnitudeText (mantissa : Nat) (binary : Int) : Text :=
  if mantissa = 0 then "0.0"
  else
    let decimal := shortest mantissa binary
    let digits := Text.ofNat decimal.digits
    let point := (digits.length : Int) + decimal.exponent
    let significant := Text.dropTrailing '0' digits
    if -4 < point && point ≤ 16 then placePoint significant point
    else scientific significant (point - 1)

def toText : Binary64 → Text
  | .finite negative mantissa exponent =>
      if negative then '-' :: magnitudeText mantissa exponent
        else magnitudeText mantissa exponent
  | .infinite negative => if negative then "-inf" else "inf"
  | .nan => "nan"

end Phrasebook.Binary64
