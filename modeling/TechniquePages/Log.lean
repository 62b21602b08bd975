import TechniquePages.Text

/-!
# Log events

A run reports what it does as events.  An event has a level, a message and
named values; it is shown when its level is at least as urgent as the level
that the user asked for.
-/

namespace TechniquePages.Log

/-- How urgent an event is, the most urgent first. -/
inductive Level where
  | error
  | warn
  | info
  | debug
  | trace
  deriving DecidableEq

namespace Level

/-- The rank of a level; a lower one is more urgent. -/
def rank : Level → Nat
  | .error => 1
  | .warn => 2
  | .info => 3
  | .debug => 4
  | .trace => 5

/-- The name of a level in settings. -/
def name : Level → Text
  | .error => "error".toList
  | .warn => "warn".toList
  | .info => "info".toList
  | .debug => "debug".toList
  | .trace => "trace".toList

/-- Every level, the most urgent first. -/
def all : List Level := [.error, .warn, .info, .debug, .trace]

/-- The natural that a text of decimal digits stands for. -/
def number? (text : Text) : Option Nat :=
  let digits := match text with | '+' :: rest => rest | _ => text
  if digits.isEmpty || !digits.all Char.isDigit then none
  else some (Text.numberOf Text.decimalValue? 10 digits)

/-- The level of a name in any case, or of its rank. -/
def ofText? (text : Text) : Option Level :=
  match number? text with
  | some rank => all.find? fun level => level.rank == rank
  | none => all.find? fun level => level.name == text.map Char.toLower

/-- The level as it stands before a message, five characters wide. -/
def label (level : Level) : Text :=
  let name := level.name.map Char.toUpper
  List.replicate (5 - name.length) ' ' ++ name

end Level

/-- Something that happened, with named values. -/
structure Event where
  level : Level
  message : Text
  fields : List (String × Text)
  deriving DecidableEq

/-- An event as one line: its level, its message, and each value behind its name. -/
def Event.line (event : Event) : Text :=
  event.level.label ++ ' ' :: event.message ++
    event.fields.flatMap fun (name, value) => ' ' :: name.toList ++ '=' :: value

/-- The event is at least as urgent as the level that was asked for. -/
def Event.isShown (event : Event) (level : Level) : Bool :=
  event.level.rank ≤ level.rank

end TechniquePages.Log
