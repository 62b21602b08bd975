import TechniquePages.Page.Line
import TechniquePages.Unicode.CharacterClass

/-!
# Markers

A line outside fenced blocks is a marker when it has one of the forms below.
Each form is a reader of its own, from the line's text to the kind it makes,
and a line takes the kind of the first form that fits.

Between the words of a marker at least one blank is asked for, and blanks at
the end never matter.  A technique's number may use the decimal digits of any
script.
-/

namespace TechniquePages.Page

open Unicode (isBlank isDecimalDigit)

namespace Marker

/-- What follows at least one blank, all blanks dropped. -/
def afterBlanks? : Text → Option Text
  | [] => none
  | character :: rest =>
    if isBlank character then some (Text.trimStart rest) else none

/-- What follows a heading mark of a level and the blanks after it. -/
def headingText?
    (level : Nat)
    (text : Text) : Option Text := do
  let rest ← Text.after? (List.replicate level '#') text
  afterBlanks? rest

/-- What follows a heading of a level that begins with given words. -/
def afterHeading?
    (level : Nat)
    (words : String)
    (text : Text) : Option Text := do
  let rest ← headingText? level text
  Text.after? words.toList rest

/-- A number of decimal digits, and what follows them. -/
def digits? : (count : Nat) → Text → Option (Text × Text)
  | 0, text => some ([], text)
  | _ + 1, [] => none
  | count + 1, character :: rest =>
    if isDecimalDigit character then
      (digits? count rest).map fun (digits, after) => (character :: digits, after)
    else none

/-- The digits of a technique's number, and what follows them. -/
def techniqueDigits? (text : Text) : Option (Text × Text) := do
  let (main, rest) ← digits? 4 text
  match rest with
  | '.' :: more =>
    match digits? 3 more with
    | some (part, after) => some (main ++ '.' :: part, after)
    | none => some (main, rest)
  | _ => some (main, rest)

/-- A technique's number in upper case, and what follows it. -/
def identifier? : Text → Option (Text × Text)
  | [] => none
  | letter :: rest =>
    if letter = 'T' || letter = 't' then
      (techniqueDigits? rest).map fun (digits, after) => ('T' :: digits, after)
    else none

/-- The mark before and after an interpreter's name. -/
def quoteMark : Char := '\x60'

/-- A name between quote marks and what follows it; the name is not empty. -/
def quotedName? : Text → Option (Text × Text)
  | [] => none
  | mark :: rest =>
    if mark = quoteMark then
      let name := rest.takeWhile (· != quoteMark)
      match rest.dropWhile (· != quoteMark) with
      | _ :: after => if name.isEmpty then none else some (name, after)
      | [] => none
    else none

/-- The interpreter that a heading says to run with, and what follows it. -/
def runWith? (text : Text) : Option (Text × Text) := do
  let rest ← afterBlanks? text
  let rest ← Text.after? "Run with".toList rest
  let rest ← afterBlanks? rest
  let (name, rest) ← quotedName? rest
  let rest ← Text.after? ['!'] rest
  some (name.trim, rest)

/-- Whether the end of a heading asks for elevated rights; nothing else may stand there. -/
def elevation? (text : Text) : Option Bool :=
  let rest := Text.trimStart text
  if rest.isEmpty then some false
  else if Text.startsWith rest "Elevation Required".toList then some true
  else none

/-- Nothing but blanks. -/
def isEmptyTail (text : Text) : Bool :=
  text.all isBlank

/-- The heading that names the technique; without a name it is not one. -/
def title? (text : Text) : Option LineKind := do
  let rest ← headingText? 1 text
  let (identifier, rest) ← identifier? rest
  let rest ← Text.after? ['-'] (Text.trimStart rest)
  let name := Text.trim rest
  if name.isEmpty then none else some (.title identifier name)

/-- The heading that opens a test; the name may be blank, but not missing. -/
def testHeading? (text : Text) : Option LineKind := do
  let rest ← afterHeading? 2 "Atomic Test" text
  let rest ← afterBlanks? rest
  let rest ← Text.after? ['#'] rest
  let (_, rest) ← digits? 1 rest
  let rest ← afterBlanks? (rest.dropWhile isDecimalDigit)
  let rest ← Text.after? ['-'] rest
  match rest with
  | blank :: name =>
    if isBlank blank && !name.isEmpty then some (.testHeading (Text.trim name)) else none
  | [] => none

/-- The heading above the technique's description; whatever follows its words is passed over. -/
def descriptionHeading? (text : Text) : Option LineKind := do
  let _ ← afterHeading? 2 "[Description from ATT&CK]" text
  some .descriptionHeading

/-- The field line that lists platforms; the list may be empty. -/
def platforms? (text : Text) : Option LineKind := do
  let rest ← Text.after? "**Supported Platforms:**".toList text
  some (.platforms (Text.trim rest))

/-- A hexadecimal digit in either case. -/
def isHexDigit (character : Char) : Bool :=
  (Text.hexValue? character).isSome

/-- Groups of hexadecimal digits with hyphens between them, and what follows. -/
def hexGroups? : List Nat → Text → Option (Text × Text)
  | [], _ => none
  | [length], text =>
    if length ≤ text.length && (text.take length).all isHexDigit then
      some (text.take length, text.drop length)
    else none
  | length :: next :: lengths, text =>
    if length ≤ text.length && (text.take length).all isHexDigit then
      match text.drop length with
      | '-' :: rest =>
        (hexGroups? (next :: lengths) rest).map fun (groups, after) =>
          (text.take length ++ '-' :: groups, after)
      | _ => none
    else none

/-- The field line that gives the test's identifier. -/
def guid? (text : Text) : Option LineKind := do
  let rest ← Text.after? "**auto_generated_guid:**".toList text
  let (value, rest) ← hexGroups? [8, 4, 4, 4, 12] (Text.trimStart rest)
  if isEmptyTail rest then some (.guid value) else none

/-- The heading above the table of inputs; whatever follows its word is passed over. -/
def inputsHeading? (text : Text) : Option LineKind := do
  let _ ← afterHeading? 4 "Inputs:" text
  some .inputsHeading

/-- The heading above manual steps. -/
def manualHeading? (text : Text) : Option LineKind := do
  let rest ← afterHeading? 4 "Run it with these steps!" text
  let elevated ← elevation? rest
  some (.manualHeading elevated)

/-- The heading above an attack command, with the interpreter to run it. -/
def commandHeading? (text : Text) : Option LineKind := do
  let rest ← afterHeading? 4 "Attack Commands:" text
  let (executor, rest) ← runWith? rest
  let elevated ← elevation? rest
  some (.commandHeading executor elevated)

/-- The heading above a cleanup command; nothing may follow its words. -/
def cleanupHeading? (text : Text) : Option LineKind := do
  let rest ← afterHeading? 4 "Cleanup Commands:" text
  if isEmptyTail rest then some .cleanupHeading else none

/-- The heading above the dependencies, with the interpreter to run their commands. -/
def dependenciesHeading? (text : Text) : Option LineKind := do
  let rest ← afterHeading? 4 "Dependencies:" text
  let (executor, _) ← runWith? rest
  some (.dependenciesHeading executor)

/-- The heading that describes one dependency. -/
def dependency? (text : Text) : Option LineKind := do
  let rest ← afterHeading? 5 "Description:" text
  some (.dependency (Text.trimEnd (rest.dropWhile fun character =>
    character == ' ' || character == '\t')))

/-- The heading above the command that checks a dependency. -/
def checkHeading? (text : Text) : Option LineKind := do
  let rest ← afterHeading? 5 "Check Prereq Commands:" text
  if isEmptyTail rest then some .checkHeading else none

/-- The heading above the command that gets a dependency. -/
def getHeading? (text : Text) : Option LineKind := do
  let rest ← afterHeading? 5 "Get Prereq Commands:" text
  if isEmptyTail rest then some .getHeading else none

/-- A heading of any level from one to six. -/
def heading? (text : Text) : Option LineKind :=
  let level := (text.takeWhile (· == '#')).length
  let rest := text.dropWhile (· == '#')
  if 1 ≤ level && level ≤ 6 && (rest.isEmpty || (rest.head?.map isBlank).getD false) then
    some (.heading level)
  else none

/-- The forms of markers, in the order in which they are tried. -/
def forms : List (Text → Option LineKind) := [
  title?, testHeading?, descriptionHeading?, platforms?, guid?, inputsHeading?,
  manualHeading?, commandHeading?, cleanupHeading?, dependenciesHeading?,
  dependency?, checkHeading?, getHeading?]

/-- The mark that opens and closes a fenced block. -/
def fence : Text := "```".toList

/-- A character of a fenced block's language. -/
def isLanguageCharacter (character : Char) : Bool :=
  character.isAlphanum || character == '_' || character == '-'

/-- The language of a line that opens a fenced block. -/
def fenceLanguage? (text : Text) : Option Text := do
  let rest ← Text.after? fence text
  if isEmptyTail (rest.dropWhile isLanguageCharacter) then
    some (rest.takeWhile isLanguageCharacter)
  else none

/-- The line closes an open block: it begins with the mark, after blanks perhaps, and may go on. -/
def closesFence (text : Text) : Bool :=
  Text.startsWith (Text.trimStart text) fence

end Marker

/-- The line opens a test, wherever it stands. -/
def isTestHeading (text : Text) : Bool :=
  (Marker.testHeading? text).isSome

/-- The kind of a line outside fenced blocks. -/
def classify (text : Text) : LineKind :=
  ((Marker.forms.findSome? (· text)).or (Marker.heading? text)).getD .prose

example : classify "# t1059.001 - PowerShell  ".toList =
    .title "T1059.001".toList "PowerShell".toList := by decide +kernel

example : classify "# T1000 -   ".toList = .heading 1 := by decide +kernel

example : classify "##  Atomic Test #12 - Dump ".toList = .testHeading "Dump".toList := by
  decide +kernel

end TechniquePages.Page
