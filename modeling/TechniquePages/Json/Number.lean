import TechniquePages.Binary64.Shortest
import TechniquePages.Json.Fault
import TechniquePages.Text

/-!
# JSON numbers

A number that is written without point and exponent and fits 64 bits is an
integer; any other number, and the negative zero, is a binary64 number.

Reading a binary64 number is quick rather than exact.  The digits are
gathered as long as they fit a 64-bit natural, digits beyond that only move
the decimal point, and the gathered natural is then multiplied or divided by a
rounded power of ten.  A result beyond the format is out of range.

The reader takes the characters from the first one of the number to the end of
the text, so that a fault can tell whether anything follows.
-/

namespace TechniquePages.Json

/-- An integer or a finite binary64 number. -/
inductive Number where
  | integer (value : Int)
  | double (value : Binary64)
  deriving DecidableEq

namespace Number

/-- The digits of an integer, or the shortest decimal text of a double. -/
def text : Number → Text
  | .integer value => Text.ofInt value
  | .double value => value.text

/-- The largest 64-bit natural. -/
def limit : Nat := 0xFFFFFFFFFFFFFFFF

/-- Drop the digits at the start. -/
def dropDigits (text : Text) : Text :=
  text.dropWhile Char.isDigit

/-- Digits gathered into a natural that fits, and where they ended. -/
structure Gathered where
  value : Nat
  /-- How many digits were taken. -/
  count : Nat
  /-- A digit was left because it no longer fitted. -/
  full : Bool
  rest : Text

/-- Gather digits while the natural stays within 64 bits. -/
def gather
    (value count : Nat) : Text → Gathered
  | [] => ⟨value, count, false, []⟩
  | character :: rest =>
    match Text.decimalValue? character with
    | none => ⟨value, count, false, character :: rest⟩
    | some digit =>
      if limit < value * 10 + digit then ⟨value, count, true, character :: rest⟩
      else gather (value * 10 + digit) (count + 1) rest

/-- Divide by ten to the 308th until the exponent is in the table of powers. -/
def scaleDown
    (number : Binary64) : (steps : Nat) → (exponent : Nat) → Option Binary64
  | 0, _ => some number
  | steps + 1, exponent =>
    if exponent ≤ 308 then do
      let power ← Binary64.ofNat? (Nat.pow 10 exponent)
      number.divide? power
    else if number.isZero then some number
    else do
      let power ← Binary64.ofNat? (Nat.pow 10 308)
      let smaller ← number.divide? power
      scaleDown smaller steps (exponent - 308)

/-- The binary64 number of a significand and a decimal exponent. -/
def assemble
    (negative : Bool)
    (significand : Nat)
    (exponent : Int) : Except Fault Binary64 :=
  let magnitude? : Option Binary64 := do
    let number ← Binary64.ofNat? significand
    if exponent < 0 then
      scaleDown number exponent.natAbs exponent.natAbs
    else if number.isZero then some number
    else if 308 < exponent then none
    else
      let power ← Binary64.ofNat? (Nat.pow 10 exponent.toNat)
      number.multiply? power
  match magnitude? with
  | some magnitude => .ok { magnitude with negative := negative }
  | none => .error .numberOutOfRange

/--
Read what follows the letter of an exponent; it moves the point of the digits gathered
so far.
-/
def readExponent
    (negative : Bool)
    (significand : Nat)
    (exponent : Int)
    (text : Text) : Except Fault (Binary64 × Text) :=
  let (down, digits) : Bool × Text :=
    match text with
    | '+' :: rest => (false, rest)
    | '-' :: rest => (true, rest)
    | _ => (false, text)
  match digits with
  | [] => .error .endInValue
  | first :: _ =>
    if first.isDigit then
      let written :=
        Text.numberOf Text.decimalValue? 10 (digits.takeWhile Char.isDigit)
      let shift : Int := if down then -written else written
      (assemble negative significand (exponent + shift)).map
        fun number => (number, dropDigits digits)
    else .error .invalidNumber

/-- Read an exponent if one follows; otherwise the number is complete. -/
def readTail
    (negative : Bool)
    (significand : Nat)
    (exponent : Int)
    (text : Text) : Except Fault (Binary64 × Text) :=
  match text with
  | 'e' :: rest => readExponent negative significand exponent rest
  | 'E' :: rest => readExponent negative significand exponent rest
  | _ => (assemble negative significand exponent).map fun number => (number, text)

/-- Read what follows a decimal point. -/
def readFraction
    (negative : Bool)
    (significand : Nat)
    (exponent : Int)
    (text : Text) : Except Fault (Binary64 × Text) :=
  -- The gathering starts anew, so a digit may fit here although one before the point did not.
  let gathered := gather significand 0 text
  let lowered : Int := exponent - gathered.count
  if gathered.full then
    readTail negative gathered.value lowered (dropDigits gathered.rest)
  else if gathered.count = 0 then
    .error (if gathered.rest.isEmpty then .endInValue else .invalidNumber)
  else
    readTail negative gathered.value lowered gathered.rest

/--
Read what follows the digits before the point.  Digits there that no longer fitted are
dropped, and each of them raises the exponent.
-/
def readAfterInteger
    (negative : Bool)
    (gathered : Gathered) : Except Fault (Number × Text) :=
  let dropped := gathered.rest.takeWhile Char.isDigit
  let rest := dropDigits gathered.rest
  let double (result : Except Fault (Binary64 × Text)) : Except Fault (Number × Text) :=
    result.map fun (number, rest) => (Number.double number, rest)
  match rest with
  | '.' :: fraction =>
    double (readFraction negative gathered.value dropped.length fraction)
  | 'e' :: digits =>
    double (readExponent negative gathered.value dropped.length digits)
  | 'E' :: digits =>
    double (readExponent negative gathered.value dropped.length digits)
  | _ =>
    if gathered.full then
      double (readTail negative gathered.value dropped.length rest)
    else if !negative then
      .ok (.integer gathered.value, rest)
    -- The negative zero is kept as a double, since an integer has no sign for it.
    else if gathered.value = 0 || 0x8000000000000000 < gathered.value then
      double ((assemble negative gathered.value 0).map fun number => (number, rest))
    else
      .ok (.integer (-gathered.value), rest)

/-- Read a number whose sign has been taken; a zero does not lead other digits. -/
def readUnsigned
    (negative : Bool)
    (text : Text) : Except Fault (Number × Text) :=
  match text with
  | [] => .error .endInValue
  | '0' :: rest =>
    match rest with
    | next :: _ =>
      if next.isDigit then .error .invalidNumber
      else readAfterInteger negative ⟨0, 1, false, rest⟩
    | [] => readAfterInteger negative ⟨0, 1, false, rest⟩
  | first :: _ =>
    if first.isDigit then readAfterInteger negative (gather 0 0 text)
    else .error .invalidNumber

/-- Read a number, and what follows it. -/
def read (text : Text) : Except Fault (Number × Text) :=
  match text with
  | '-' :: rest => readUnsigned true rest
  | _ => readUnsigned false text

/-- Pass over what follows the letter of an exponent. -/
def skipExponent (text : Text) : Except Fault Text :=
  let digits :=
    match text with
    | '+' :: rest => rest
    | '-' :: rest => rest
    | _ => text
  match digits with
  | [] => .error .invalidNumber
  | first :: rest => if first.isDigit then .ok (dropDigits rest) else .error .invalidNumber

/-- Pass over an exponent if one follows. -/
def skipTail (text : Text) : Except Fault Text :=
  match text with
  | 'e' :: rest => skipExponent rest
  | 'E' :: rest => skipExponent rest
  | _ => .ok text

/-- Pass over what follows the integer part. -/
def skipAfterInteger (text : Text) : Except Fault Text :=
  match text with
  | '.' :: fraction =>
    match fraction with
    | [] => .error .invalidNumber
    | first :: _ =>
      if first.isDigit then skipTail (dropDigits fraction) else .error .invalidNumber
  | _ => skipTail text

/-- Pass over the digits of a number. -/
def skipUnsigned (text : Text) : Except Fault Text :=
  match text with
  | [] => .error .invalidNumber
  | '0' :: rest =>
    match rest with
    | next :: _ => if next.isDigit then .error .invalidNumber else skipAfterInteger rest
    | [] => .ok []
  | first :: rest =>
    if first.isDigit then skipAfterInteger (dropDigits rest) else .error .invalidNumber

/--
Pass over a number without asking for its value: the number may be out of
range, and an unfinished one is always invalid.
-/
def skip (text : Text) : Except Fault Text :=
  match text with
  | '-' :: rest => skipUnsigned rest
  | _ => skipUnsigned text

end Number

end TechniquePages.Json
