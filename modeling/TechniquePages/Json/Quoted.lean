import TechniquePages.Json.Fault
import TechniquePages.Text

/-!
# Quoted text in JSON

Writing a text puts it between quotation marks and escapes the quotation mark,
the backslash and the controls below the space; the five controls that have a
letter use it.  Everything else stands as it is.

Reading takes the characters after the opening mark and gives the text and what
follows the closing mark.  A character outside the basic plane may be written
as two surrogate escapes; one without its partner is a fault.  Passing over a
quoted text asks only for well-formed escapes, so surrogates need no partner
there.
-/

namespace TechniquePages.Json.Quoted

/-- A hexadecimal digit in lower case. -/
def hexDigit (value : Nat) : Char :=
  if value < 10 then Char.ofNat ('0'.toNat + value)
  else Char.ofNat ('a'.toNat + (value - 10))

/-- A character as it stands between quotation marks. -/
def escape (character : Char) : Text :=
  if character = '\"' then ['\\', '\"']
  else if character = '\\' then ['\\', '\\']
  else if character = '\x08' then ['\\', 'b']
  else if character = '\x0c' then ['\\', 'f']
  else if character = '\n' then ['\\', 'n']
  else if character = '\r' then ['\\', 'r']
  else if character = '\t' then ['\\', 't']
  else if character.toNat < 0x20 then
    ['\\', 'u', '0', '0', hexDigit (character.toNat / 16), hexDigit (character.toNat % 16)]
  else [character]

/-- The text between quotation marks, without them. -/
def body (text : Text) : Text :=
  text.flatMap escape

/-- The text between quotation marks. -/
def write (text : Text) : Text :=
  '\"' :: (body text ++ ['\"'])

/-- The unit that four hexadecimal digits stand for, the highest one first. -/
def hexValue4? (first second third fourth : Char) : Option Nat := do
  let first ← Text.hexValue? first
  let second ← Text.hexValue? second
  let third ← Text.hexValue? third
  let fourth ← Text.hexValue? fourth
  some (((first * 16 + second) * 16 + third) * 16 + fourth)

/-- At least four bytes follow, so that a bad escape is not an early end. -/
def hasFourBytes (text : Text) : Bool :=
  4 ≤ (text.take 4).foldl (fun length character => length + character.utf8Size) 0

/-- The unit that four digits stand for, and what follows them. -/
def readUnit (text : Text) : Except Fault (Nat × Text) :=
  match text with
  | first :: second :: third :: fourth :: rest =>
    match hexValue4? first second third fourth with
    | some unit => .ok (unit, rest)
    | none => .error .invalidEscape
  | _ => .error (if hasFourBytes text then .invalidEscape else .endInString)

/-- The partner of a leading surrogate. -/
def readPartner (text : Text) : Except Fault Nat :=
  match text with
  | [] => .error .endInString
  | '\\' :: rest =>
    match rest with
    | [] => .error .endInString
    | 'u' :: digits =>
      match readUnit digits with
      | .error fault => .error fault
      | .ok (unit, _) =>
        if 0xDC00 ≤ unit && unit ≤ 0xDFFF then .ok unit else .error .loneSurrogate
    | _ => .error .unfinishedSurrogate
  | _ => .error .unfinishedSurrogate

/-- The character of a unicode escape, and how many characters follow the letter. -/
def readUnicode (text : Text) : Except Fault (Char × Nat) :=
  match readUnit text with
  | .error fault => .error fault
  | .ok (unit, rest) =>
    if 0xDC00 ≤ unit && unit ≤ 0xDFFF then .error .loneSurrogate
    else if 0xD800 ≤ unit && unit ≤ 0xDBFF then
      match readPartner rest with
      | .error fault => .error fault
      | .ok partner =>
        .ok (Char.ofNat ((unit - 0xD800) * 0x400 + (partner - 0xDC00) + 0x10000), 10)
    else .ok (Char.ofNat unit, 4)

/-- The character of an escape, and how many characters it takes after the backslash. -/
def readEscape (text : Text) : Except Fault (Char × Nat) :=
  match text with
  | [] => .error .endInString
  | letter :: rest =>
    if letter = '\"' then .ok ('\"', 1)
    else if letter = '\\' then .ok ('\\', 1)
    else if letter = '/' then .ok ('/', 1)
    else if letter = 'b' then .ok ('\x08', 1)
    else if letter = 'f' then .ok ('\x0c', 1)
    else if letter = 'n' then .ok ('\n', 1)
    else if letter = 'r' then .ok ('\r', 1)
    else if letter = 't' then .ok ('\t', 1)
    else if letter = 'u' then
      match readUnicode rest with
      | .error fault => .error fault
      | .ok (character, length) => .ok (character, length + 1)
    else .error .invalidEscape

/--
Read to the closing mark.  The count says how many characters still belong to
an escape that has been read.
-/
def readFrom : (pending : Nat) → Text → Except Fault (Text × Text)
  | _, [] => .error .endInString
  | pending + 1, _ :: rest => readFrom pending rest
  | 0, character :: rest =>
    if character = '\"' then .ok ([], rest)
    else if character = '\\' then
      match readEscape rest with
      | .error fault => .error fault
      | .ok (decoded, length) =>
        (readFrom length rest).map fun (text, after) => (decoded :: text, after)
    else if character.toNat < 0x20 then .error .controlCharacter
    else (readFrom 0 rest).map fun (text, after) => (character :: text, after)

/-- The text after an opening mark, and what follows the closing mark. -/
def read (text : Text) : Except Fault (Text × Text) :=
  readFrom 0 text

/-- How many characters an escape takes after the backslash. -/
def skipEscape (text : Text) : Except Fault Nat :=
  match text with
  | [] => .error .endInString
  | letter :: rest =>
    if "\"\\/bfnrt".toList.contains letter then .ok 1
    else if letter = 'u' then
      match readUnit rest with
      | .error fault => .error fault
      | .ok _ => .ok 5
    else .error .invalidEscape

/-- Pass over a text up to and with its closing mark. -/
def skipFrom : (pending : Nat) → Text → Except Fault Text
  | _, [] => .error .endInString
  | pending + 1, _ :: rest => skipFrom pending rest
  | 0, character :: rest =>
    if character = '\"' then .ok rest
    else if character = '\\' then
      match skipEscape rest with
      | .error fault => .error fault
      | .ok length => skipFrom length rest
    else if character.toNat < 0x20 then .error .controlCharacter
    else skipFrom 0 rest

/-- What follows the closing mark of a text whose opening mark has been read. -/
def skip (text : Text) : Except Fault Text :=
  skipFrom 0 text

example : write "a\"\n\x01é".toList = "\"a\\\"\\n\\u0001é\"".toList := by decide

example :
    (read "\\ud83d\\ude00\"x".toList).toOption = some (['😀'], ['x']) := by decide

end TechniquePages.Json.Quoted
