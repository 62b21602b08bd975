import TechniquePages.Json.Value
import TechniquePages.Text.Quotation

/-!
# JSON as it is written

Records are read from a text in one pass, and of several faults the first one
in reading order is reported.  Whether something is a fault depends on who
asks: a lone surrogate matters to a reader of text and not to one who passes
over the value.

So a text is first laid out as a tree that nobody has judged yet.  A text or a
number in it carries two answers, its value and the outcome of passing over
it.  Where the text breaks off or goes wrong, the tree holds the fault in the
place where a reader would come upon it, and nothing of what follows.
-/

namespace TechniquePages.Json

/-- How a list or an object stops. -/
inductive Ending where
  /-- With its closing bracket. -/
  | closed
  /-- With the end of the text. -/
  | unfinished
  /-- With something that is neither a comma nor the closing bracket. -/
  | unseparated
  /-- With a comma and the closing bracket. -/
  | trailingComma
  /-- With a comma and the end of the text. -/
  | unfinishedAfterComma
  /-- With something that is no key. -/
  | keyNotString
  deriving DecidableEq

mutual

/-- A value as it is written. -/
inductive Source where
  | broken (fault : Fault)
  | null
  | boolean (value : Bool)
  | number (value : Except Fault Number) (skipped : Except Fault Unit)
  | text (value : Except Fault Text) (skipped : Except Fault Unit)
  | list (items : Items)
  | object (members : Members)

/-- The items of a list as they are written. -/
inductive Items where
  | stop (ending : Ending)
  | item (head : Source) (tail : Items)

/-- The members of an object as they are written. -/
inductive Members where
  | stop (ending : Ending)
  | member
    (key : Except Fault Text)
    (skipped : Except Fault Unit)
    (value : Source)
    (tail : Members)

end

/-- The fault that a reader of a list meets at its end. -/
def Ending.listFault? : Ending → Option Fault
  | .closed => none
  | .unfinished => some .endInList
  | .unseparated => some .expectedListSeparator
  | .trailingComma => some .trailingComma
  | .unfinishedAfterComma => some .endInValue
  | .keyNotString => some .expectedValue

/-- The fault that a reader of an object meets at its end. -/
def Ending.objectFault? : Ending → Option Fault
  | .closed => none
  | .unfinished => some .endInObject
  | .unseparated => some .expectedObjectSeparator
  | .trailingComma => some .trailingComma
  | .unfinishedAfterComma => some .endInValue
  | .keyNotString => some .keyNotString

/-- The fault at the end of a list that is passed over. -/
def Ending.skippedListFault? : Ending → Option Fault
  | .trailingComma => some .expectedValue
  | ending => ending.listFault?

/-- The fault at the end of an object that is passed over. -/
def Ending.skippedObjectFault? : Ending → Option Fault
  | .trailingComma => some .keyNotString
  | .unfinishedAfterComma => some .endInObject
  | ending => ending.objectFault?

/-- The fault at the end of a list whose reader wants no further item. -/
def Ending.fullListFault? : Ending → Option Fault
  | .unseparated => some .trailingCharacters
  | ending => ending.listFault?

/-- The blanks that may stand between the parts of a JSON text. -/
def isSpace (character : Char) : Bool :=
  character == ' ' || character == '\n' || character == '\t' || character == '\r'

/-- Drop blanks at the start. -/
def dropSpace (text : Text) : Text :=
  text.dropWhile isSpace

/-- The rest of a word, and what follows it. -/
def readWord
    (value : Source) : (word text : Text) → Source × Text
  | [], text => (value, text)
  | _ :: _, [] => (.broken .endInValue, [])
  | expected :: word, character :: rest =>
    if expected = character then readWord value word rest
    else (.broken .expectedWord, [])

/-- A number, and what follows it. -/
def readNumber (text : Text) : Source × Text :=
  let value := (Number.read text).map Prod.fst
  match Number.skip text with
  | .ok rest => (.number value (.ok ()), rest)
  | .error fault => (.number value (.error fault), [])

/-- A text whose opening mark has been read, and what follows it. -/
def readText (text : Text) : Source × Text :=
  let value := (Quoted.read text).map Prod.fst
  match Quoted.skip text with
  | .ok rest => (.text value (.ok ()), rest)
  | .error fault => (.text value (.error fault), [])

mutual

/-- A value, and what follows it. -/
def readValue : (fuel : Nat) → Text → Source × Text
  | 0, _ => (.broken .endInValue, [])
  | fuel + 1, text =>
    match dropSpace text with
    | [] => (.broken .endInValue, [])
    | first :: rest =>
      if first = 'n' then readWord .null "ull".toList rest
      else if first = 't' then readWord (.boolean true) "rue".toList rest
      else if first = 'f' then readWord (.boolean false) "alse".toList rest
      else if first = '-' || first.isDigit then readNumber (first :: rest)
      else if first = '\"' then readText rest
      else if first = '[' then
        let (items, after) := readItems fuel true rest
        (.list items, after)
      else if first = '\x7b' then
        let (members, after) := readMembers fuel true rest
        (.object members, after)
      else (.broken .expectedValue, [])

/-- The items of a list up to and with its closing bracket. -/
def readItems : (fuel : Nat) → (atStart : Bool) → Text → Items × Text
  | 0, _, _ => (.stop .unfinished, [])
  | fuel + 1, atStart, text =>
    let proceed (text : Text) : Items × Text :=
      let (head, after) := readValue fuel text
      let (tail, rest) := readItems fuel false after
      (.item head tail, rest)
    match dropSpace text with
    | [] => (.stop .unfinished, [])
    | first :: rest =>
      if first = ']' then (.stop .closed, rest)
      else if atStart then proceed (first :: rest)
      else if first = ',' then
        match dropSpace rest with
        | [] => proceed []
        | next :: more =>
          if next = ']' then (.stop .trailingComma, []) else proceed (next :: more)
      else (.stop .unseparated, [])

/-- The members of an object up to and with its closing bracket. -/
def readMembers : (fuel : Nat) → (atStart : Bool) → Text → Members × Text
  | 0, _, _ => (.stop .unfinished, [])
  | fuel + 1, atStart, text =>
    let proceed (text : Text) : Members × Text :=
      let key := (Quoted.read text).map Prod.fst
      match Quoted.skip text with
      | .error fault => (.member key (.error fault) (.broken fault) (.stop .unfinished), [])
      | .ok after =>
        match dropSpace after with
        | [] => (.member key (.ok ()) (.broken .endInObject) (.stop .unfinished), [])
        | separator :: more =>
          if separator = ':' then
            let (value, after) := readValue fuel more
            let (tail, rest) := readMembers fuel false after
            (.member key (.ok ()) value tail, rest)
          else (.member key (.ok ()) (.broken .expectedColon) (.stop .unfinished), [])
    match dropSpace text with
    | [] => (.stop .unfinished, [])
    | first :: rest =>
      if first = '\x7d' then (.stop .closed, rest)
      else if atStart then
        if first = '\"' then proceed rest else (.stop .keyNotString, [])
      else if first = ',' then
        match dropSpace rest with
        | [] => (.stop .unfinishedAfterComma, [])
        | next :: more =>
          if next = '\"' then proceed more
          else if next = '\x7d' then (.stop .trailingComma, [])
          else (.stop .keyNotString, [])
      else (.stop .unseparated, [])

end

/-- The value that a text begins with, and what follows it. -/
def Source.read (text : Text) : Source × Text :=
  readValue (2 * text.length + 2) text

end TechniquePages.Json
