import TechniquePages.Binary64
import TechniquePages.Text

/-!
# The tokens of a TOML text

A TOML text is read token by token.  A reader takes its token from the front
of the text and leaves the rest, or refuses.  Between the tokens stands white
space; the tokens here are quoted texts and numbers.
-/

namespace TechniquePages.Toml

/-!
## White space, comments and line ends

White space within a line is blanks and tabs.  A line ends at a line feed,
which a carriage return may precede, or at the end of the text; a comment may
stand before the end.  Inside a list white space, comments and line ends may
stand anywhere.
-/

/-- A reader gives what it has read and what follows, or refuses. -/
abbrev Reader (α : Type) := Text → Option (α × Text)

/-- White space within a line. -/
def isWhite (character : Char) : Bool :=
  character == ' ' || character == '\t'

/-- A character that comments and quoted texts may hold on one line. -/
def isShown (character : Char) : Bool :=
  character == '\t' || (0x20 ≤ character.toNat && character.toNat != 0x7F)

/-- Drop white space within the line. -/
def dropWhite (text : Text) : Text :=
  text.dropWhile isWhite

/-- Take a line end off. -/
def dropLineFeed? : Text → Option Text
  | '\n' :: rest => some rest
  | '\r' :: '\n' :: rest => some rest
  | _ => none

/-- Drop a comment up to the end of its line. -/
def dropComment (text : Text) : Text :=
  match text with
  | '#' :: rest => rest.dropWhile isShown
  | _ => text

/-- What follows the line, if nothing but white space and a comment is left on it. -/
def finishLine? (text : Text) : Option Text :=
  match dropComment (dropWhite text) with
  | [] => some []
  | rest => dropLineFeed? rest

/-- Drop white space, line ends and comments; the mark says that a comment is open. -/
def dropGapFrom : (inComment : Bool) → Text → Text
  | _, [] => []
  | _, '\n' :: rest => dropGapFrom false rest
  | _, '\r' :: '\n' :: rest => dropGapFrom false rest
  | true, character :: rest =>
    if isShown character then dropGapFrom true rest else character :: rest
  | false, '#' :: rest => dropGapFrom true rest
  | false, character :: rest =>
    if isWhite character then dropGapFrom false rest else character :: rest

/-- Drop white space, line ends and comments. -/
def dropGap (text : Text) : Text :=
  dropGapFrom false text

example : dropGap " # a\n\t\r\n]".toList = [']'] := by decide

namespace Quoted

/-!
## Quoted text

A text stands between quotation marks, where a backslash escapes, or between
apostrophes, where nothing does.  Three marks on each side let it run over
several lines; a line end directly after the opening marks is dropped, and one
or two marks may stand directly before the closing ones.

Inside three quotation marks a backslash at the end of a line drops the line's
end and all white space up to the next other character.
-/

/-- The character with a number, unless it is a surrogate or too large. -/
def character? (number : Nat) : Option Char :=
  if number.isValidChar then some (Char.ofNat number) else none

/-- The character that a number of hexadecimal digits at the start stand for. -/
def numbered? (length : Nat) (text : Text) : Option (Char × Nat) :=
  let digits := text.take length
  if digits.length = length && digits.all fun digit => (Text.hexValue? digit).isSome then
    (character? (Text.numberOf Text.hexValue? 16 digits)).map fun character =>
      (character, length + 1)
  else none

/-- The character of an escape, and how many characters it takes after the backslash. -/
def escaped? (text : Text) : Option (Char × Nat) :=
  match text with
  | [] => none
  | letter :: rest =>
    if letter = '\"' then some ('\"', 1)
    else if letter = '\\' then some ('\\', 1)
    else if letter = 'b' then some ('\x08', 1)
    else if letter = 'f' then some ('\x0c', 1)
    else if letter = 'n' then some ('\n', 1)
    else if letter = 'r' then some ('\r', 1)
    else if letter = 't' then some ('\t', 1)
    else if letter = 'u' then numbered? 4 rest
    else if letter = 'U' then numbered? 8 rest
    else none

/-- Put a character in front of the text that has been read. -/
def before (character : Char) (read : Option (Text × Text)) : Option (Text × Text) :=
  read.map fun (text, rest) => (character :: text, rest)

/--
Read a text of one line up to its closing mark.  The count says how many
characters still belong to an escape that has been read.
-/
def readLine (mark : Char) (escapes : Bool) : (pending : Nat) → Text → Option (Text × Text)
  | _, [] => none
  | pending + 1, _ :: rest => readLine mark escapes pending rest
  | 0, character :: rest =>
    if character = mark then some ([], rest)
    else if escapes && character == '\\' then
      match escaped? rest with
      | some (character, length) => before character (readLine mark escapes length rest)
      | none => none
    else if isShown character then before character (readLine mark escapes 0 rest)
    else none

/-- The marks that a text of several lines ends in, and what follows them. -/
def closing? (mark : Char) (text : Text) : Option (Text × Text) :=
  let run := (text.take 5).takeWhile (· == mark)
  if run.length < 3 then none else some (run.drop 3, text.drop run.length)

/-- A line end follows after nothing but white space. -/
def endsLine (text : Text) : Bool :=
  (dropLineFeed? (dropWhite text)).isSome

/-- How many characters of white space and line ends stand at the start. -/
def gapLength : Text → Nat
  | [] => 0
  | '\r' :: '\n' :: rest => gapLength rest + 2
  | character :: rest =>
    if isWhite character || character == '\n' then gapLength rest + 1 else 0

/--
Read a text of several lines up to its closing marks.  The count says how many
characters are still to be passed over.
-/
def readLines (mark : Char) (escapes : Bool) : (pending : Nat) → Text → Option (Text × Text)
  | _, [] => none
  | pending + 1, _ :: rest => readLines mark escapes pending rest
  | 0, character :: rest =>
    if character = mark then
      match closing? mark (character :: rest) with
      | some read => some read
      | none => before character (readLines mark escapes 0 rest)
    else if escapes && character == '\\' then
      if endsLine rest then readLines mark escapes (gapLength rest) rest
      else
        match escaped? rest with
        | some (character, length) => before character (readLines mark escapes length rest)
        | none => none
    else if character = '\n' then before '\n' (readLines mark escapes 0 rest)
    else if character = '\r' then
      if rest.head? = some '\n' then readLines mark escapes 0 rest else none
    else if isShown character then before character (readLines mark escapes 0 rest)
    else none

/-- Read a text of several lines after its opening marks. -/
def openLines (mark : Char) (escapes : Bool) (text : Text) : Option (Text × Text) :=
  readLines mark escapes 0 ((dropLineFeed? text).getD text)

/-- Read a text of one line, a quoted key for instance. -/
def readShort : Reader Text
  | '\"' :: rest => readLine '\"' true 0 rest
  | '\x27' :: rest => readLine '\x27' false 0 rest
  | _ => none

/-- Read a quoted text; three marks in front open one of several lines. -/
def read : Reader Text
  | '\"' :: '\"' :: '\"' :: rest => openLines '\"' true rest
  | '\x27' :: '\x27' :: '\x27' :: rest => openLines '\x27' false rest
  | text => readShort text

example : read "\"a\\u00e9\" x".toList = some ("aé".toList, " x".toList) := by decide +kernel

example :
    read "\"\"\"\na\\ \n  b\"\"\"\"".toList = some ("ab\"".toList, []) := by decide +kernel

example : read "'a\\'".toList = some ("a\\".toList, []) := by decide +kernel

end Quoted

/-!
## Numbers

Digits may be set apart by single underscores, with a digit on both sides.  A
decimal number has no idle zero in front.  An integer is held in 64 bits, and
to the bases sixteen, eight and two it has no sign.

A number with a fraction or an exponent is rounded to binary64.  Beyond the
format a positive one is refused, and a negative one is infinite.
-/

/-- A number of the binary64 format, with what the format has beside its finite numbers. -/
inductive Double where
  | finite (number : Binary64)
  | infinite (negative : Bool)
  | notNumber
  deriving DecidableEq

namespace Numeral

/-- Take digits, which single underscores may set apart; the underscores are dropped. -/
def digits (isDigit : Char → Bool) : Text → Text × Text
  | [] => ([], [])
  | '_' :: next :: rest =>
    if isDigit next then
      let (taken, after) := digits isDigit rest
      (next :: taken, after)
    else ([], '_' :: next :: rest)
  | character :: rest =>
    if isDigit character then
      let (taken, after) := digits isDigit rest
      (character :: taken, after)
    else ([], character :: rest)

/-- Take at least one digit, the first one not set apart. -/
def someDigits? (isDigit : Char → Bool) (text : Text) : Option (Text × Text) :=
  match text with
  | first :: _ => if isDigit first then some (digits isDigit text) else none
  | [] => none

/-- Take a sign; the mark says that it is a minus sign. -/
def sign (text : Text) : Bool × Text :=
  match text with
  | '-' :: rest => (true, rest)
  | '+' :: rest => (false, rest)
  | _ => (false, text)

/-- Take the digits of a decimal number without an idle zero. -/
def decimalDigits? (text : Text) : Option (Text × Text) :=
  match text with
  | '0' :: rest => some (['0'], rest)
  | _ => someDigits? Char.isDigit text

/-- The natural that decimal digits stand for. -/
def decimal (digits : Text) : Nat :=
  Text.numberOf Text.decimalValue? 10 digits

/-- The integer, if it is held in 64 bits. -/
def inRange? (value : Int) : Option Int :=
  if -0x8000000000000000 ≤ value && value < 0x8000000000000000 then some value else none

/-- Read the digits of an integer to another base than ten. -/
def readBased (base : Nat) : Reader Int := fun text =>
  let isDigit (character : Char) : Bool :=
    match Text.hexValue? character with
    | some value => value < base
    | none => false
  match someDigits? isDigit text with
  | none => none
  | some (digits, rest) =>
    (inRange? (Text.numberOf Text.hexValue? base digits)).map fun value => (value, rest)

/-- Read an integer: without a sign after the prefix of another base, otherwise to base ten. -/
def readInteger : Reader Int
  | '0' :: 'x' :: rest => readBased 16 rest
  | '0' :: 'o' :: rest => readBased 8 rest
  | '0' :: 'b' :: rest => readBased 2 rest
  | text =>
    let (negative, rest) := sign text
    match decimalDigits? rest with
    | none => none
    | some (digits, rest) =>
      let magnitude : Int := decimal digits
      (inRange? (if negative then -magnitude else magnitude)).map fun value => (value, rest)

/-- The double of decimal digits and a power of ten. -/
def double? (negative : Bool) (digits : Text) (exponent : Int) : Option Double :=
  match Binary64.ofDecimal? (decimal digits) exponent with
  | some magnitude => some (.finite { magnitude with negative := negative })
  | none => if negative then some (.infinite true) else none

/-- Take an exponent, if one follows; a letter without digits is refused. -/
def exponent? (text : Text) : Option (Int × Text) :=
  match text with
  | [] => some (0, [])
  | letter :: rest =>
    if letter == 'e' || letter == 'E' then
      let (negative, rest) := sign rest
      (someDigits? Char.isDigit rest).map fun (digits, rest) =>
        let magnitude : Int := decimal digits
        (if negative then -magnitude else magnitude, rest)
    else some (0, text)

/-- Read a number with a fraction or an exponent. -/
def readDecimal : Reader Double := fun text => do
  let (negative, rest) := sign text
  let (whole, rest) ← decimalDigits? rest
  match rest with
  | '.' :: rest =>
    let (fraction, rest) ← someDigits? Char.isDigit rest
    let (exponent, rest) ← exponent? rest
    let value ← double? negative (whole ++ fraction) (exponent - fraction.length)
    some (value, rest)
  | letter :: _ =>
    if letter == 'e' || letter == 'E' then
      let (exponent, rest) ← exponent? rest
      let value ← double? negative whole exponent
      some (value, rest)
    else none
  | [] => none

/-- Read an infinity, or the value that is no number, with its sign. -/
def readNamed : Reader Double := fun text =>
  match sign text with
  | (negative, 'i' :: 'n' :: 'f' :: rest) => some (.infinite negative, rest)
  | (_, 'n' :: 'a' :: 'n' :: rest) => some (.notNumber, rest)
  | _ => none

/-- Read a number that is no integer, in digits or by name. -/
def readDouble : Reader Double := fun text =>
  (readDecimal text).or (readNamed text)

example : readInteger "-1_000,".toList = some (-1000, [',']) := by decide

example : readInteger "0xfF".toList = some (255, []) := by decide

example :
    readDouble "1_0.5e-1".toList = some (.finite ⟨false, 0x10CCCCCCCCCCCD, -52⟩, []) := by
  decide +kernel

end Numeral

end TechniquePages.Toml
