import TechniquePages.Json.Value

/-!
# Numbers and equality in schemas

A schema compares numbers by their exact value, so that an integer equals the
binary64 number of the same value.  Values are equal when they have the same
shape and equal parts.
-/

namespace TechniquePages

namespace Json.Number

/-- The exact value as an integer over a natural. -/
def ratio : Number → Int × Nat
  | .integer value => (value, 1)
  | .double value =>
    let magnitude := value.ratio
    (if value.negative then -(magnitude.1 : Int) else magnitude.1, magnitude.2)

/-- The left number is below the right one, by exact value. -/
def less (left right : Number) : Bool :=
  left.ratio.1 * right.ratio.2 < right.ratio.1 * left.ratio.2

/-- The numbers have one exact value. -/
def same (left right : Number) : Bool :=
  left.ratio.1 * right.ratio.2 == right.ratio.1 * left.ratio.2

/-- The value is an integer, however the number is written. -/
def isWhole (number : Number) : Bool :=
  number.ratio.1 % number.ratio.2 == 0

/-- The natural that the number is, if it is one. -/
def natural? (number : Number) : Option Nat :=
  if number.isWhole && 0 ≤ number.ratio.1 then
    some (number.ratio.1 / number.ratio.2).toNat
  else none

/-- The value of the shortest decimal that reads back as the number. -/
def decimalRatio : Number → Int × Nat
  | .integer value => (value, 1)
  | .double value =>
    if value.isZero then (0, 1)
    else
      let magnitude := value.shortest.ratio
      (if value.negative then -(magnitude.1 : Int) else magnitude.1, magnitude.2)

/-- The number is a whole multiple of another one, both taken as decimals. -/
def isMultipleOf (number factor : Number) : Bool :=
  let left := number.decimalRatio
  let right := factor.decimalRatio
  right.1 != 0 && (left.1 * right.2) % (right.1 * left.2) == 0

end Json.Number

namespace Json

mutual

/-- The values are equal, numbers by value. -/
def same : Json → Json → Bool
  | .null, .null => true
  | .boolean left, .boolean right => left == right
  | .number left, .number right => left.same right
  | .string left, .string right => left == right
  | .array left, .array right => sameItems left right
  | .object left, .object right => sameMembers left right
  | _, _ => false

/-- The items are equal one by one. -/
def sameItems : List Json → List Json → Bool
  | [], [] => true
  | left :: lefts, right :: rights => same left right && sameItems lefts rights
  | _, _ => false

/-- The members are equal one by one; both stand in key order. -/
def sameMembers : List (Text × Json) → List (Text × Json) → Bool
  | [], [] => true
  | (key, left) :: lefts, (other, right) :: rights =>
    key == other && same left right && sameMembers lefts rights
  | _, _ => false

end

/-- No two items are equal. -/
def allDistinct : List Json → Bool
  | [] => true
  | item :: rest => !rest.any (same item) && allDistinct rest

mutual

/-- How many values there are in a value, itself included. -/
def nodeCount : Json → Nat
  | .null => 1
  | .boolean _ => 1
  | .number _ => 1
  | .string _ => 1
  | .array items => 1 + nodeCountItems items
  | .object members => 1 + nodeCountMembers members

/-- How many values there are in items. -/
def nodeCountItems : List Json → Nat
  | [] => 0
  | item :: rest => nodeCount item + nodeCountItems rest

/-- How many values there are in members. -/
def nodeCountMembers : List (Text × Json) → Nat
  | [] => 0
  | (_, value) :: rest => nodeCount value + nodeCountMembers rest

end

end Json

end TechniquePages
