import TechniquePages.Toml.Token

/-!
# Dates and times in TOML

A moment is a date, a time, or both; with both it may say how far its clock is
from the common one.  The date has to exist in the calendar.  A second of 60
is allowed for leap seconds, and of the digits after the second only nine
count.

The text of a moment has one form: a letter between date and time, no idle
zeros after the second, and the distance in hours and minutes.
-/

namespace TechniquePages.Toml

/-- A day of the calendar. -/
structure Date where
  year : Nat
  month : Nat
  day : Nat
  deriving DecidableEq

/-- A time of the day down to the nanosecond. -/
structure ClockTime where
  hour : Nat
  minute : Nat
  second : Nat
  nanosecond : Nat
  deriving DecidableEq

/-- How far a clock is from the common one. -/
inductive ClockOffset where
  /-- Not said. -/
  | none
  /-- Not at all, written as a letter. -/
  | zero
  | minutes (ahead : Int)
  deriving DecidableEq

/-- A date, a time, or both. -/
inductive Moment where
  | dateOnly (date : Date)
  | timeOnly (time : ClockTime)
  | full (date : Date) (time : ClockTime) (offset : ClockOffset)
  deriving DecidableEq

namespace Moment

/-- A number in at least so many digits. -/
def padded (width number : Nat) : Text :=
  let digits := Text.ofNat number
  List.replicate (width - digits.length) '0' ++ digits

/-- Year, month and day with hyphens between them. -/
def dateText (date : Date) : Text :=
  padded 4 date.year ++ '-' :: padded 2 date.month ++ '-' :: padded 2 date.day

/-- Drop the idle zeros after a second. -/
def dropFinalZeros (digits : Text) : Text :=
  (digits.reverse.dropWhile (· == '0')).reverse

/-- Hour, minute and second with colons between them; a whole second has no digits after it. -/
def timeText (time : ClockTime) : Text :=
  padded 2 time.hour ++ ':' :: padded 2 time.minute ++ ':' :: padded 2 time.second ++
    if time.nanosecond = 0 then [] else '.' :: dropFinalZeros (padded 9 time.nanosecond)

/-- An offset in hours and minutes behind its sign, or the letter that stands for none. -/
def offsetText : ClockOffset → Text
  | .none => []
  | .zero => ['Z']
  | .minutes ahead =>
    let magnitude := ahead.natAbs
    (if ahead < 0 then '-' else '+') ::
      padded 2 (magnitude / 60) ++ ':' :: padded 2 (magnitude % 60)

/-- A moment in its one form. -/
def text : Moment → Text
  | .dateOnly date => dateText date
  | .timeOnly time => timeText time
  | .full date time offset => dateText date ++ 'T' :: timeText time ++ offsetText offset

/-- Read so many digits as a number between two bounds. -/
def readNumber (width least greatest : Nat) : Reader Nat := fun text =>
  let digits := text.take width
  let number := Text.numberOf Text.decimalValue? 10 digits
  if digits.length = width && digits.all Char.isDigit && least ≤ number && number ≤ greatest then
    some (number, text.drop width)
  else none

/-- Take a fixed character off. -/
def skip (expected : Char) (text : Text) : Option Text :=
  match text with
  | character :: rest => if character = expected then some rest else none
  | [] => none

/-- How many days a month of a year has. -/
def daysOf (year month : Nat) : Nat :=
  let isLeap := year % 4 == 0 && (year % 100 != 0 || year % 400 == 0)
  if month = 2 then (if isLeap then 29 else 28)
  else if [4, 6, 9, 11].contains month then 30
  else 31

/-- Read a date that exists in the calendar. -/
def readDate : Reader Date := fun text => do
  let (year, rest) ← readNumber 4 0 9999 text
  let rest ← skip '-' rest
  let (month, rest) ← readNumber 2 1 12 rest
  let rest ← skip '-' rest
  let (day, rest) ← readNumber 2 1 (daysOf year month) rest
  some (⟨year, month, day⟩, rest)

/-- Read the part of a second, if one follows. -/
def readPart (text : Text) : Option (Nat × Text) :=
  match text with
  | '.' :: rest =>
    let digits := rest.takeWhile Char.isDigit
    if digits.isEmpty then none
    else
      let counted := digits.take 9
      let number := Text.numberOf Text.decimalValue? 10 counted
      some (number * Nat.pow 10 (9 - counted.length), rest.dropWhile Char.isDigit)
  | _ => some (0, text)

/-- Read a time, with the part of a second that follows it. -/
def readTime : Reader ClockTime := fun text => do
  let (hour, rest) ← readNumber 2 0 23 text
  let rest ← skip ':' rest
  let (minute, rest) ← readNumber 2 0 59 rest
  let rest ← skip ':' rest
  let (second, rest) ← readNumber 2 0 60 rest
  let (nanosecond, rest) ← readPart rest
  some (⟨hour, minute, second, nanosecond⟩, rest)

/-- Read the hours and minutes of an offset whose sign has been taken. -/
def readOffsetMinutes (isBehind : Bool) : Reader ClockOffset := fun text => do
  let (hours, rest) ← readNumber 2 0 23 text
  let rest ← skip ':' rest
  let (minutes, rest) ← readNumber 2 0 59 rest
  let magnitude : Int := hours * 60 + minutes
  some (.minutes (if isBehind then -magnitude else magnitude), rest)

/-- Read an offset, if one follows. -/
def readOffset : Reader ClockOffset := fun text =>
  match text with
  | 'Z' :: rest => some (.zero, rest)
  | 'z' :: rest => some (.zero, rest)
  | '+' :: rest => readOffsetMinutes false rest
  | '-' :: rest => readOffsetMinutes true rest
  | _ => some (.none, text)

/-- Read what may follow a date; a blank that no time follows is left. -/
def readAfterDate (date : Date) : Reader Moment := fun text =>
  match text with
  | mark :: rest =>
    if mark == 'T' || mark == 't' || mark == ' ' then
      match readTime rest with
      | none => some (.dateOnly date, text)
      | some (time, rest) =>
        (readOffset rest).map fun (offset, rest) => (.full date time offset, rest)
    else some (.dateOnly date, text)
  | [] => some (.dateOnly date, [])

/-- Read a moment; what does not begin with a date has to be a time. -/
def read : Reader Moment := fun text =>
  match readDate text with
  | some (date, rest) => readAfterDate date rest
  | none => (readTime text).map fun (time, rest) => (.timeOnly time, rest)

example :
    (read "1979-05-27 07:32:00.500z".toList).map (fun (moment, _) => moment.text) =
      some "1979-05-27T07:32:00.5Z".toList := by decide +kernel

example : read "2023-02-29".toList = none := by decide +kernel

end Moment

end TechniquePages.Toml
