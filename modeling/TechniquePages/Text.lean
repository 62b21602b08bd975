import TechniquePages.Unicode.CharacterClass

/-!
# Text

A text is a list of characters.  Every reader and writer of the library works
by recursion on such a list, so the few operations that they share are stated
here in that form: trimming, cutting at a character, joining, and taking a
fixed beginning off.

Lines are cut at line feeds.  A carriage return directly before a line feed
belongs to the line's end; a text that ends in a line feed has no empty line
after it.
-/

namespace TechniquePages

/-- A text as the list of its characters. -/
abbrev Text := List Char

namespace Text

open Unicode (isBlank)

/-- Drop the blanks at the start. -/
def trimStart (text : Text) : Text :=
  text.dropWhile isBlank

/-- Drop the blanks at the end. -/
def trimEnd (text : Text) : Text :=
  (text.reverse.dropWhile isBlank).reverse

/-- Drop the blanks at both ends. -/
def trim (text : Text) : Text :=
  trimEnd (trimStart text)

/-- The pieces between occurrences of a separator; there is always one. -/
def cutAt
    (separator : Char) : Text → List Text
  | [] => [[]]
  | character :: rest =>
    if character = separator then
      [] :: cutAt separator rest
    else
      match cutAt separator rest with
      | [] => [[character]]
      | piece :: pieces => (character :: piece) :: pieces

@[simp]
theorem cutAt_nil (separator : Char) : cutAt separator [] = [[]] := rfl

theorem cutAt_ne_nil
    (separator : Char)
    (text : Text) :
    cutAt separator text ≠ [] := by
  cases text with
  | nil => simp
  | cons character rest =>
    unfold cutAt
    split
    · simp
    · split <;> simp

/-- Put a separator between texts. -/
def joinWith
    (separator : Text) : List Text → Text
  | [] => []
  | [text] => text
  | text :: next :: rest => text ++ separator ++ joinWith separator (next :: rest)

@[simp]
theorem joinWith_nil (separator : Text) : joinWith separator [] = [] := rfl

@[simp]
theorem joinWith_singleton
    (separator text : Text) :
    joinWith separator [text] = text := rfl

/-- Put a line feed between texts. -/
def joinLines (texts : List Text) : Text :=
  joinWith ['\n'] texts

/-- What follows a fixed beginning, if the text starts with it. -/
def after? : (beginning text : Text) → Option Text
  | [], text => some text
  | _ :: _, [] => none
  | expected :: beginning, character :: rest =>
    if expected = character then after? beginning rest else none

@[simp]
theorem after?_nil (text : Text) : after? [] text = some text := rfl

/-- The beginning is found exactly where the text is it and something more. -/
theorem after?_eq_some_iff
    (beginning text rest : Text) :
    after? beginning text = some rest ↔ text = beginning ++ rest := by
  induction beginning generalizing text with
  | nil => simp [eq_comm]
  | cons expected beginning hypothesis =>
    cases text with
    | nil => simp [after?]
    | cons character tail =>
      unfold after?
      by_cases equal : expected = character
      · simp [equal, hypothesis]
      · simp [equal, Ne.symm equal]

/-- The text begins with another one. -/
def startsWith (text beginning : Text) : Bool :=
  (after? beginning text).isSome

/-- Drop a carriage return at the end; it belongs to the line feed that the text was cut at. -/
def dropFinalReturn : Text → Text
  | [] => []
  | ['\r'] => []
  | character :: rest => character :: dropFinalReturn rest

/--
The lines that pieces between line feeds make.  No line feed follows the last piece, so
it keeps a carriage return, and it is no line when it is empty.
-/
def linesOfPieces : List Text → List Text
  | [] => []
  | [last] => if last.isEmpty then [] else [last]
  | piece :: next :: rest => dropFinalReturn piece :: linesOfPieces (next :: rest)

/-- The lines of a text, without their ends. -/
def lines (text : Text) : List Text :=
  linesOfPieces (cutAt '\n' text)

/-- The decimal digits of a number. -/
def ofNat (number : Nat) : Text :=
  Nat.toDigits 10 number

/-- The decimal digits of a number, after a minus sign if it is negative. -/
def ofInt : Int → Text
  | .ofNat number => ofNat number
  | .negSucc number => '-' :: ofNat (number + 1)

/-- Order by code point, the first difference deciding. -/
def precedes : (left right : Text) → Bool
  | _, [] => false
  | [], _ :: _ => true
  | first :: left, second :: right =>
    if first = second then precedes left right else first.toNat < second.toNat

example : lines "a\r\n\nb\r".toList = ["a".toList, [], "b\r".toList] := by decide

example : trim "\t a b\n".toList = "a b".toList := by decide

example : cutAt ',' ",a".toList = [[], "a".toList] := by decide

/-!
## Digits

The values of digits to base ten and to base sixteen, and the number that
digits stand for, the highest one first.
-/

/-- The value of a digit to base ten. -/
def decimalValue? (character : Char) : Option Nat :=
  if character.isDigit then some (character.toNat - '0'.toNat) else none

/-- The value of a digit to base sixteen, in either case. -/
def hexValue? (character : Char) : Option Nat :=
  if character.isDigit then some (character.toNat - '0'.toNat)
  else if 'a' ≤ character && character ≤ 'f' then some (character.toNat - 'a'.toNat + 10)
  else if 'A' ≤ character && character ≤ 'F' then some (character.toNat - 'A'.toNat + 10)
  else none

/-- The number that digits stand for; a character that is no digit counts as zero. -/
def numberOf
    (value? : Char → Option Nat)
    (base : Nat)
    (digits : Text) : Nat :=
  digits.foldl (fun number digit => number * base + (value? digit).getD 0) 0

example : numberOf hexValue? 16 "fF".toList = 255 := by decide

end Text

end TechniquePages
