/-!
# Binary64 numbers

The finite numbers of the 64-bit binary format, held as a sign, a significand
and an exponent of two.  Nothing here is a machine float: a number is exact
integer data, and each operation says which rational it takes and how that
rational is rounded.

Rounding goes to the nearest number of the format, a tie to the one with the
even significand.  A result beyond the largest finite number is no number.
-/

namespace TechniquePages

/--
The number `significand * 2 ^ exponent`, negative if marked so.  The zero
keeps its sign.
-/
structure Binary64 where
  negative : Bool
  significand : Nat
  exponent : Int
  deriving DecidableEq, Repr

namespace Binary64

/-- The exponent of the numbers nearest to zero; only they have fewer than 53 binary digits. -/
def leastExponent : Int := -1074

/-- The exponent of the largest numbers of the format. -/
def greatestExponent : Int := 971

/-- The zero without a minus sign. -/
def zero : Binary64 := ⟨false, 0, leastExponent⟩

/-- Either of the two zeros. -/
def isZero (number : Binary64) : Bool :=
  number.significand == 0

/-- The quotient of two naturals rounded to the nearest, a tie to the even one. -/
def nearestQuotient (numerator denominator : Nat) : Nat :=
  let quotient := numerator / denominator
  let rest := numerator % denominator
  if 2 * rest < denominator then quotient
  else if denominator < 2 * rest then quotient + 1
  else quotient + quotient % 2

/-- A fraction divided by a power of two, as a fraction. -/
def scale
    (numerator denominator : Nat)
    (exponent : Int) : Nat × Nat :=
  if 0 ≤ exponent then (numerator, denominator * Nat.pow 2 exponent.toNat)
  else (numerator * Nat.pow 2 (-exponent).toNat, denominator)

/-- The exponent at which a fraction has a significand of 53 binary digits. -/
def exponentOf (numerator denominator : Nat) : Int :=
  let guess : Int := (numerator.log2 : Int) - (denominator.log2 : Int) - 52
  let scaled := scale numerator denominator guess
  let exponent := if scaled.1 < scaled.2 * 0x10000000000000 then guess - 1 else guess
  max leastExponent exponent

/-- The nearest number to a fraction, if it is within the format. -/
def ofRatio? (numerator denominator : Nat) : Option Binary64 :=
  if numerator = 0 then some zero
  else
    let exponent := exponentOf numerator denominator
    let scaled := scale numerator denominator exponent
    let significand := nearestQuotient scaled.1 scaled.2
    let result : Binary64 :=
      if significand = 0x20000000000000 then ⟨false, 0x10000000000000, exponent + 1⟩
      else ⟨false, significand, exponent⟩
    if greatestExponent < result.exponent then none else some result

/-- The nearest number to a natural. -/
def ofNat? (number : Nat) : Option Binary64 :=
  ofRatio? number 1

/--
The nearest number to a natural times a power of ten, if it is within the
format.  Powers so large or small that the digits cannot matter are not
computed.
-/
def ofDecimal? (digits : Nat) (exponent : Int) : Option Binary64 :=
  if digits = 0 then some zero
  else if 400 < exponent then none
  else if exponent < -(400 + (digits.log2 : Int)) then some zero
  else if 0 ≤ exponent then ofRatio? (digits * Nat.pow 10 exponent.toNat) 1
  else ofRatio? digits (Nat.pow 10 (-exponent).toNat)

/-- The magnitude as a fraction. -/
def ratio (number : Binary64) : Nat × Nat :=
  if 0 ≤ number.exponent then (number.significand * Nat.pow 2 number.exponent.toNat, 1)
  else (number.significand, Nat.pow 2 (-number.exponent).toNat)

/-- The rounded product of two magnitudes. -/
def multiply? (left right : Binary64) : Option Binary64 :=
  ofRatio? (left.ratio.1 * right.ratio.1) (left.ratio.2 * right.ratio.2)

/-- The rounded quotient of two magnitudes. -/
def divide? (left right : Binary64) : Option Binary64 :=
  ofRatio? (left.ratio.1 * right.ratio.2) (left.ratio.2 * right.ratio.1)

example : ofNat? 9007199254740993 = ofNat? 9007199254740992 := by decide +kernel

example : ofRatio? 1 10 = some ⟨false, 0x1999999999999A, -56⟩ := by decide +kernel

example : ofDecimal? 1 400 = none ∧ ofDecimal? 1 (-1000000) = some zero := by decide +kernel

end Binary64

end TechniquePages
