import Phrasebook.Text.Digit

/-!
# Binary fractions of 64 bits

Fractional numbers are the binary floating-point numbers of 64 bits, kept
exactly: a finite one is a signed mantissa below `2 ^ 53` times a power of two.
Decimals are rounded to the nearest of them, and a tie goes to the even one.
-/

namespace Phrasebook

/-- A binary floating-point number.  A finite one has the mantissa at least
`2 ^ 52` or the least exponent, so each value but zero has one form. -/
inductive Binary64 where
  | finite (negative : Bool) (mantissa : Nat) (exponent : Int)
  | infinite (negative : Bool)
  | nan
  deriving DecidableEq

/-- The decimal `digits * 10 ^ exponent`. -/
structure Decimal where
  digits : Nat
  exponent : Int
  deriving DecidableEq

namespace Binary64

def leastExponent : Int := -1074

def greatestExponent : Int := 971

/-- The quotient rounded to the nearest integer, a tie to the even one. -/
def roundQuotient (numerator denominator : Nat) : Nat :=
  let quotient := numerator / denominator
  let twice := 2 * (numerator % denominator)
  if twice < denominator then quotient
  else if twice = denominator then quotient + quotient % 2
  else quotient + 1

/-- The fraction divided by a power of two, again as a fraction. -/
def scaleDown (numerator denominator : Nat) (exponent : Int) : Nat × Nat :=
  if exponent < 0 then (numerator * Nat.pow 2 exponent.natAbs, denominator)
  else (numerator, denominator * Nat.pow 2 exponent.natAbs)

/-- The exponent at which the fraction has a mantissa of 53 bits, or the least
exponent if the fraction is too small for that. -/
def exponentOf (numerator denominator : Nat) : Int :=
  let guess := max leastExponent ((numerator.log2 : Int) - denominator.log2 - 53)
  let (top, bottom) := scaleDown numerator denominator guess
  if top / bottom < Nat.pow 2 53 then guess else guess + 1

/-- The number nearest to the fraction. -/
def ofFraction (negative : Bool) (numerator denominator : Nat) : Binary64 :=
  if numerator = 0 then .finite negative 0 leastExponent
  else
    let exponent := exponentOf numerator denominator
    let (top, bottom) := scaleDown numerator denominator exponent
    let rounded := roundQuotient top bottom
    let (mantissa, exponent) :=
      if rounded = Nat.pow 2 53 then (Nat.pow 2 52, exponent + 1)
        else (rounded, exponent)
    if greatestExponent < exponent then .infinite negative
    else .finite negative mantissa exponent

/-- The number nearest to the decimal. -/
def ofDecimal (negative : Bool) (decimal : Decimal) : Binary64 :=
  let scale := Nat.pow 10 decimal.exponent.natAbs
  if decimal.exponent < 0 then ofFraction negative decimal.digits scale
  else ofFraction negative (decimal.digits * scale) 1

def fraction (mantissa : Nat) (exponent : Int) : Nat × Nat :=
  let scale := Nat.pow 2 exponent.natAbs
  if exponent < 0 then (mantissa, scale) else (mantissa * scale, 1)

def neg : Binary64 → Binary64
  | .finite negative mantissa exponent => .finite (!negative) mantissa exponent
  | .infinite negative => .infinite (!negative)
  | .nan => .nan

def isPositive : Binary64 → Bool
  | .finite negative mantissa _ => !negative && mantissa != 0
  | .infinite negative => !negative
  | .nan => false

/-- Numerical equality: the two zeros are equal, and nothing equals what is not a
number. -/
def sameAs : Binary64 → Binary64 → Bool
  | .finite _ 0 _, .finite _ 0 _ => true
  | .nan, _ => false
  | left, right => left == right

/-- Whether the number is the given integer. -/
def isInt (number : Binary64) (integer : Int) : Bool :=
  match number with
  | .finite negative mantissa exponent =>
      let (top, bottom) := fraction mantissa exponent
      top == integer.natAbs * bottom &&
        (mantissa == 0 || negative == decide (integer < 0))
  | _ => false

end Binary64

end Phrasebook
