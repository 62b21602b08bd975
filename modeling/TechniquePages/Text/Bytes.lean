import TechniquePages.Text

/-!
# Texts from bytes

Bytes that are no text still have a reading: every longest beginning of a
character that its next byte breaks off, and every byte that begins nothing,
becomes one replacement character.

A character of several bytes is read with the bounds of the bytes that are
still to come.  Only the byte after the first one has bounds of its own, which
keep out overlong forms, surrogates and numbers beyond the last character.
-/

namespace TechniquePages.Text

/-- The character in the stead of bytes that are no text. -/
def replacement : Char := '\ufffd'

/-- The bounds of the bytes of a character that are still to come. -/
abbrev Expected := List (Nat × Nat)

/-- The bounds of a byte that only continues a character. -/
def continuation : Nat × Nat := (0x80, 0xBF)

/-- The part of a character that its first byte holds, and what has to follow. -/
def leadByte? (byte : Nat) : Option (Nat × Expected) :=
  if 0xC2 ≤ byte && byte ≤ 0xDF then some (byte % 0x20, [continuation])
  else if byte = 0xE0 then some (0, [(0xA0, 0xBF), continuation])
  else if byte = 0xED then some (0xD, [(0x80, 0x9F), continuation])
  else if 0xE1 ≤ byte && byte ≤ 0xEF then some (byte % 0x10, [continuation, continuation])
  else if byte = 0xF0 then some (0, [(0x90, 0xBF), continuation, continuation])
  else if 0xF1 ≤ byte && byte ≤ 0xF3 then
    some (byte % 8, [continuation, continuation, continuation])
  else if byte = 0xF4 then some (4, [(0x80, 0x8F), continuation, continuation])
  else none

/-- What a byte gives where a character may begin, and what has to follow. -/
def beginCharacter (byte : Nat) : Text × Nat × Expected :=
  if byte < 0x80 then ([Char.ofNat byte], 0, [])
  else
    match leadByte? byte with
    | some (value, expected) => ([], value, expected)
    | none => ([replacement], 0, [])

/-- Read bytes inside a character of which the value so far is given. -/
def ofBytesFrom
    (value : Nat)
    (expected : Expected) : List UInt8 → Text
  | [] => if expected.isEmpty then [] else [replacement]
  | byte :: rest =>
    match expected with
    | [] =>
      let (given, value, expected) := beginCharacter byte.toNat
      given ++ ofBytesFrom value expected rest
    | (low, high) :: more =>
      if low ≤ byte.toNat && byte.toNat ≤ high then
        let value := value * 0x40 + byte.toNat % 0x40
        if more.isEmpty then Char.ofNat value :: ofBytesFrom 0 [] rest
        else ofBytesFrom value more rest
      else
        let (given, value, expected) := beginCharacter byte.toNat
        replacement :: given ++ ofBytesFrom value expected rest

/-- The text of bytes, replacements standing for what is no character. -/
def ofBytes (bytes : List UInt8) : Text :=
  ofBytesFrom 0 [] bytes

example : ofBytes [0x61, 0xC3, 0xA9, 0xE5, 0x90, 0x8D] = "aé名".toList := by decide

example : ofBytes [0xE5, 0x90, 0x61, 0xFF] = [replacement, 'a', replacement] := by decide

end TechniquePages.Text
