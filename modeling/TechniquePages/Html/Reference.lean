import TechniquePages.Html.NamedReference
import TechniquePages.Text

/-!
# Character references

Text on a page may hold references such as an ampersand followed by `lt;`.  A
reference is numeric or named.

A numeric reference needs at least one digit; its semicolon may be missing.  A
number that is no character gives the replacement character, and the numbers
128 to 159 are read as the old Windows code page has them.  A named reference
takes the longest name that follows.  Anything else stands as it is written.
-/

namespace TechniquePages.Html

/-- What a reference stands for, and how many characters follow its ampersand. -/
structure Reference where
  text : Text
  length : Nat
  deriving DecidableEq

/-- The code points of the numbers 128 to 159 in the Windows code page. -/
def windowsCodes : List Nat := [
  0x20AC, 0x81, 0x201A, 0x0192, 0x201E, 0x2026, 0x2020, 0x2021,
  0x02C6, 0x2030, 0x0160, 0x2039, 0x0152, 0x8D, 0x017D, 0x8F,
  0x90, 0x2018, 0x2019, 0x201C, 0x201D, 0x2022, 0x2013, 0x2014,
  0x02DC, 0x2122, 0x0161, 0x203A, 0x0153, 0x9D, 0x017E, 0x0178]

/-- The character of a numeric reference. -/
def numberedCharacter (number : Nat) : Char :=
  if number = 0 || 0x10FFFF < number || (0xD800 ≤ number && number ≤ 0xDFFF) then '\ufffd'
  else if 0x80 ≤ number && number ≤ 0x9F then
    Char.ofNat (windowsCodes.getD (number - 0x80) number)
  else Char.ofNat number

/-- The number that digits at the start stand for, and how many there are. -/
def gatherDigits
    (value? : Char → Option Nat)
    (base number count : Nat) : Text → Nat × Nat
  | [] => (number, count)
  | character :: rest =>
    match value? character with
    | some value => gatherDigits value? base (number * base + value) (count + 1) rest
    | none => (number, count)

/-- The reference that digits at the start make; `lead` characters stand before them. -/
def numbered?
    (value? : Char → Option Nat)
    (base lead : Nat)
    (text : Text) : Option Reference :=
  let (number, count) := gatherDigits value? base 0 0 text
  if count = 0 then none
  else
    -- The semicolon belongs to the reference if it is there.
    let semicolon := if (text.drop count).head? = some ';' then 1 else 0
    some ⟨[numberedCharacter number], lead + count + semicolon⟩

/-- The longest of the names that the text begins with. -/
def longestName?
    (names : List (String × List Nat))
    (text : Text) : Option Reference :=
  names.foldl
    (fun best (name, codes) =>
      if Text.startsWith text name.toList then
        let length := name.toList.length
        match best with
        | some reference =>
          if reference.length < length then some ⟨codes.map Char.ofNat, length⟩ else best
        | none => some ⟨codes.map Char.ofNat, length⟩
      else best)
    none

/-- The reference that follows an ampersand. -/
def reference? (text : Text) : Option Reference :=
  match text with
  | '#' :: 'x' :: digits => numbered? Text.hexValue? 16 2 digits
  | '#' :: 'X' :: digits => numbered? Text.hexValue? 16 2 digits
  | '#' :: digits => numbered? Text.decimalValue? 10 1 digits
  | _ => longestName? NamedReference.all text

/--
Replace references.  The count says how many characters still belong to a
reference that has been replaced.
-/
def decodeFrom : (pending : Nat) → Text → Text
  | _, [] => []
  | pending + 1, _ :: rest => decodeFrom pending rest
  | 0, character :: rest =>
    if character = '&' then
      match reference? rest with
      | some reference => reference.text ++ decodeFrom reference.length rest
      | none => character :: decodeFrom 0 rest
    else character :: decodeFrom 0 rest

/-- Replace every character reference. -/
def decode (text : Text) : Text :=
  decodeFrom 0 text

@[simp]
theorem decode_nil : decode [] = [] := rfl

/-- The count does nothing but drop characters. -/
theorem decodeFrom_eq_decode_drop
    (pending : Nat)
    (text : Text) :
    decodeFrom pending text = decode (text.drop pending) := by
  induction text generalizing pending with
  | nil => cases pending <;> simp [decodeFrom]
  | cons character rest hypothesis =>
    cases pending with
    | zero => rfl
    | succ pending => simp [decodeFrom, hypothesis]

/-- A text without an ampersand stands as it is. -/
theorem decode_eq_self
    (text : Text)
    (plain : '&' ∉ text) :
    decode text = text := by
  induction text with
  | nil => rfl
  | cons character rest hypothesis =>
    simp only [List.mem_cons, not_or] at plain
    have following := hypothesis plain.2
    unfold decode at following ⊢
    simp [decodeFrom, Ne.symm plain.1, following]

/-- Write a backslash as a reference, so that it survives a table cell. -/
def escapeBackslashes (text : Text) : Text :=
  text.flatMap fun character =>
    if character = '\\' then "&#92;".toList else [character]

end TechniquePages.Html
