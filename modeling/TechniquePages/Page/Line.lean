import TechniquePages.Text

/-!
# Lines of a page

A page is read line by line.  Every line is of exactly one kind: it is a
heading with a meaning, another heading, one of the two field lines, a part of
a fenced block, or prose.

A heading has a level.  Headings of level two and four end the free text
before them, so descriptions and manual steps run up to the next such line.
-/

namespace TechniquePages.Page

/-- What a line of a page is, with the texts that a marker carries. -/
inductive LineKind where
  /-- The heading that names the technique. -/
  | title (identifier name : Text)
  /-- The heading that opens a test. -/
  | testHeading (name : Text)
  /-- The heading above the description of the technique. -/
  | descriptionHeading
  /-- The field line that lists platforms. -/
  | platforms (names : Text)
  /-- The field line that gives the test's identifier. -/
  | guid (value : Text)
  /-- The heading above the table of inputs. -/
  | inputsHeading
  /-- The heading above manual steps. -/
  | manualHeading (elevated : Bool)
  /-- The heading above an attack command. -/
  | commandHeading (executor : Text) (elevated : Bool)
  /-- The heading above a cleanup command. -/
  | cleanupHeading
  /-- The heading above the dependencies. -/
  | dependenciesHeading (executor : Text)
  /-- The heading that describes one dependency. -/
  | dependency (description : Text)
  /-- The heading above the command that checks a dependency. -/
  | checkHeading
  /-- The heading above the command that gets a dependency. -/
  | getHeading
  /-- Any other heading. -/
  | heading (level : Nat)
  /-- The line that opens a fenced block; `closed` says that it has an end. -/
  | fenceOpen (language : Text) (closed : Bool)
  /-- The line that closes a fenced block. -/
  | fenceClose
  /-- A line inside a fenced block. -/
  | code
  /-- Any other line. -/
  | prose
  deriving DecidableEq

/-- The level of a heading; a line of another kind has none. -/
def LineKind.level? : LineKind → Option Nat
  | .title _ _ => some 1
  | .testHeading _ => some 2
  | .descriptionHeading => some 2
  | .inputsHeading => some 4
  | .manualHeading _ => some 4
  | .commandHeading _ _ => some 4
  | .cleanupHeading => some 4
  | .dependenciesHeading _ => some 4
  | .dependency _ => some 5
  | .checkHeading => some 5
  | .getHeading => some 5
  | .heading level => some level
  | .platforms _ => none
  | .guid _ => none
  | .fenceOpen _ _ => none
  | .fenceClose => none
  | .code => none
  | .prose => none

/-- Headings of level two and four end the free text before them. -/
def LineKind.endsText (kind : LineKind) : Bool :=
  kind.level? == some 2 || kind.level? == some 4

/-- A line with its number, which counts from one. -/
structure Line where
  number : Nat
  text : Text
  kind : LineKind
  deriving DecidableEq

/-- The texts of lines with line feeds between them. -/
def Line.join (lines : List Line) : Text :=
  Text.joinLines (lines.map Line.text)

/-- The first line that a question has an answer for, and the lines after it. -/
def Line.afterFirst?
    {α : Type}
    (answer? : LineKind → Option α) : List Line → Option (α × List Line)
  | [] => none
  | line :: rest =>
    match answer? line.kind with
    | some answer => some (answer, rest)
    | none => afterFirst? answer? rest

/-- The answer of the first line that has one. -/
def Line.first?
    {α : Type}
    (answer? : LineKind → Option α)
    (lines : List Line) : Option α :=
  (Line.afterFirst? answer? lines).map Prod.fst

/-- The lines after the first one of a kind. -/
def Line.after?
    (kind : LineKind)
    (lines : List Line) : Option (List Line) :=
  (Line.afterFirst? (fun other => if other = kind then some () else none) lines).map Prod.snd

/-- The name of the test that a line opens. -/
def LineKind.testName? : LineKind → Option Text
  | .testHeading name => some name
  | _ => none

/-- The description of the dependency that a line opens. -/
def LineKind.dependency? : LineKind → Option Text
  | .dependency description => some description
  | _ => none

end TechniquePages.Page
