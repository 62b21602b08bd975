import TechniquePages.Binary64
import TechniquePages.Text

/-!
# Shortest decimal text

A binary64 number is written with the fewest decimal digits that read back as
the same number, and of those with the digits nearest to it.

The digits are found on decimal grids of growing fineness.  A grid has a hit
when one of the number's two neighbours on it lies in the interval of
rationals that round to the number; the ends of that interval belong to it
exactly when the significand is even.

The text is positional for decimal exponents from -5 to 15 and always has a
point there; otherwise it is exponential with an explicit sign.
-/

namespace TechniquePages.Binary64

/-- Decimal digits times a power of ten. -/
structure Decimal where
  digits : Nat
  exponent : Int

/-- Compare `left.1 / left.2` with `right.1 / right.2`. -/
def ratioLess (left right : Nat × Nat) : Bool :=
  left.1 * right.2 < right.1 * left.2

/-- The value of a decimal as a fraction. -/
def Decimal.ratio (decimal : Decimal) : Nat × Nat :=
  if 0 ≤ decimal.exponent then (decimal.digits * Nat.pow 10 decimal.exponent.toNat, 1)
  else (decimal.digits, Nat.pow 10 (-decimal.exponent).toNat)

/-- The fraction `quarters / 4` units of the number's last binary digit. -/
def quarters
    (number : Binary64)
    (count : Nat) : Nat × Nat :=
  if 0 ≤ number.exponent then (count * Nat.pow 2 number.exponent.toNat, 4)
  else (count, 4 * Nat.pow 2 (-number.exponent).toNat)

/-- The middle between the number and the one below it. -/
def lowerEnd (number : Binary64) : Nat × Nat :=
  if number.significand = 0x10000000000000 && leastExponent < number.exponent then
    number.quarters (4 * number.significand - 1)
  else
    number.quarters (4 * number.significand - 2)

/-- The middle between the number and the one above it. -/
def upperEnd (number : Binary64) : Nat × Nat :=
  number.quarters (4 * number.significand + 2)

/-- The decimal lies among the rationals that round to the number's magnitude; a zero never does. -/
def readsAs
    (number : Binary64)
    (decimal : Decimal) : Bool :=
  let ends := number.significand % 2 == 0
  let above :=
    if ends then !ratioLess decimal.ratio number.lowerEnd
    else ratioLess number.lowerEnd decimal.ratio
  let below :=
    if ends then !ratioLess number.upperEnd decimal.ratio
    else ratioLess decimal.ratio number.upperEnd
  decimal.digits != 0 && above && below

/-- The neighbour of the number on a decimal grid that reads back, if one does. -/
def onGrid?
    (number : Binary64)
    (exponent : Int) : Option Decimal :=
  let magnitude := number.ratio
  let scaled : Nat × Nat :=
    if 0 ≤ exponent then (magnitude.1, magnitude.2 * Nat.pow 10 exponent.toNat)
    else (magnitude.1 * Nat.pow 10 (-exponent).toNat, magnitude.2)
  let below : Decimal := ⟨scaled.1 / scaled.2, exponent⟩
  let above : Decimal := ⟨scaled.1 / scaled.2 + 1, exponent⟩
  match number.readsAs below, number.readsAs above with
  | true, true =>
    let rest := scaled.1 % scaled.2
    if 2 * rest < scaled.2 then some below
    else if scaled.2 < 2 * rest then some above
    else if below.digits % 2 = 0 then some below
    else some above
  | true, false => some below
  | false, true => some above
  | false, false => none

/-- The first hit on grids from a given exponent downwards. -/
def searchGrids
    (number : Binary64) : (steps : Nat) → (exponent : Int) → Decimal
  | 0, exponent => ⟨0, exponent⟩
  | steps + 1, exponent =>
    match number.onGrid? exponent with
    | some decimal => decimal
    | none => searchGrids number steps (exponent - 1)

/-- A power of ten that is above the magnitude, found from its binary length. -/
def topExponent (number : Binary64) : Int :=
  (((number.significand.log2 : Int) + 1 + number.exponent) * 30103) / 100000 + 1

/-- The fewest digits that read back as the magnitude of a number other than zero. -/
def shortest (number : Binary64) : Decimal :=
  number.searchGrids 20 number.topExponent

/-- Write digits times a power of ten. -/
def Decimal.text (decimal : Decimal) : Text :=
  let digits := Text.ofNat decimal.digits
  let point : Int := digits.length + decimal.exponent
  if 0 ≤ decimal.exponent && point ≤ 16 then
    digits ++ List.replicate decimal.exponent.toNat '0' ++ ".0".toList
  else if 0 < point && point ≤ 16 then
    digits.take point.toNat ++ '.' :: digits.drop point.toNat
  else if -5 < point && point ≤ 0 then
    "0.".toList ++ List.replicate (-point).toNat '0' ++ digits
  else
    let exponent := point - 1
    let mantissa :=
      match digits with
      | first :: second :: rest => first :: '.' :: second :: rest
      | short => short
    let sign := if exponent < 0 then '-' else '+'
    mantissa ++ 'e' :: sign :: Text.ofNat exponent.natAbs

/-- The shortest decimal text of a number, with a point or an exponent in any case. -/
def text (number : Binary64) : Text :=
  let magnitude :=
    if number.isZero then "0.0".toList else number.shortest.text
  if number.negative then '-' :: magnitude else magnitude

example : (ofRatio? 1 10).map text = some "0.1".toList := by decide +kernel

example : (ofRatio? 1 100000).map text = some "0.00001".toList := by decide +kernel

example : (ofNat? (10 ^ 16)).map text = some "1e+16".toList := by decide +kernel

example : text ⟨false, 1, -1074⟩ = "5e-324".toList := by decide +kernel

/-!
## Positional text

The same shortest digits, written without an exponent however long that makes
the text, and without a point where there is nothing after it.
-/

/-- Digits times a power of ten without an exponent. -/
def Decimal.positional (decimal : Decimal) : Text :=
  let digits := Text.ofNat decimal.digits
  let point : Int := digits.length + decimal.exponent
  if 0 ≤ decimal.exponent then digits ++ List.replicate decimal.exponent.toNat '0'
  else if 0 < point then digits.take point.toNat ++ '.' :: digits.drop point.toNat
  else "0.".toList ++ List.replicate (-point).toNat '0' ++ digits

/-- The shortest decimal text of a number without an exponent. -/
def positional (number : Binary64) : Text :=
  let magnitude :=
    if number.isZero then ['0'] else number.shortest.positional
  if number.negative then '-' :: magnitude else magnitude

example : (ofRatio? 3 2).map positional = some "1.5".toList := by decide +kernel

example : (ofNat? (10 ^ 17)).map positional = some "100000000000000000".toList := by
  decide +kernel

end TechniquePages.Binary64
