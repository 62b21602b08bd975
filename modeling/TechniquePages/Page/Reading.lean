import TechniquePages.Log
import TechniquePages.Page.DependencyBlock
import TechniquePages.Page.InputsTable
import TechniquePages.Page.Platform
import TechniquePages.Page.Scan

/-!
# Reading a page

A page makes a technique.  Its title may stand anywhere; its description is
the quoted block below the description heading, before the first test; each
section makes one test.

Every part of a test is found by itself in the section's lines, so a missing
or broken part leaves the others alone.  Only an unclosed fence and a missing
executor or command make a section unreadable, in that order, and the first
unreadable section makes the page unreadable.
-/

namespace TechniquePages.Page

/-- The technique's number and name in a title. -/
def LineKind.title? : LineKind → Option (Text × Text)
  | .title identifier name => some (identifier, name)
  | _ => none

/-- The names on a line that lists platforms. -/
def LineKind.platforms? : LineKind → Option Text
  | .platforms names => some names
  | _ => none

/-- The identifier on a guid line. -/
def LineKind.guid? : LineKind → Option Text
  | .guid value => some value
  | _ => none

/-- The line opens a block without an end. -/
def LineKind.isUnclosed : LineKind → Bool
  | .fenceOpen _ false => true
  | _ => false

/-- The lines after the first one that is a given text but for blanks. -/
def afterText? (text : String) : List Line → Option (List Line)
  | [] => none
  | line :: rest =>
    if line.text.trim = text.toList then some rest else afterText? text rest

/-- The lines before the first one that is a given text but for blanks. -/
def beforeText? (text : String) : List Line → Option (List Line)
  | [] => none
  | line :: rest =>
    if line.text.trim = text.toList then some []
    else (beforeText? text rest).map (line :: ·)

/-- The description of the technique in the lines before the first test. -/
def techniqueDescription? (preamble : List Line) : Option Text := do
  let below ← Line.after? .descriptionHeading preamble
  let inside ← afterText? "<blockquote>" below
  let quoted ← beforeText? "</blockquote>" inside
  ExecutorBlock.nonEmpty? (Line.join quoted).trim

namespace Section

/-- The free text between the heading and the platforms or the next heading. -/
def description (body : List Line) : Text :=
  (Line.join (body.takeWhile fun line =>
    !(line.kind.platforms?.isSome || line.kind.endsText))).trim

/-- The platforms of the first line that lists them; without one there are none. -/
def platforms (body : List Line) : List Text :=
  ((Line.first? LineKind.platforms? body).map Platform.readList).getD []

/-- The test's identifier. -/
def guid? (body : List Line) : Option Text :=
  Line.first? LineKind.guid? body

/-- The lines below the inputs heading as they are written; a table may stand in code. -/
def inputTexts? (body : List Line) : Option (List Text) :=
  (Line.after? .inputsHeading body).map fun lines => lines.map Line.text

/-- The arguments of the inputs table. -/
def arguments (body : List Line) : Arguments :=
  ((inputTexts? body).map InputsTable.arguments).getD .empty

/-- The number of the first line that opens a block without an end. -/
def unclosedFence? (body : List Line) : Option Nat :=
  (body.find? fun line => line.kind.isUnclosed).map Line.number

/-- The test that a section makes. -/
def read (part : Section) : Except Fault AtomicTest :=
  match unclosedFence? part.body with
  | some line => .error (.unclosedFence line)
  | none =>
    match ExecutorBlock.read part.name part.body with
    | .error fault => .error fault
    | .ok executor =>
      let (dependencyExecutor, dependencies) :=
        DependencyBlock.read executor.name part.body
      .ok {
        name := part.name
        description := description part.body
        platforms := platforms part.body
        executor := executor
        arguments := arguments part.body
        dependencies := dependencies
        dependencyExecutor := dependencyExecutor
        guid := guid? part.body }

end Section

/-- The tests of sections in order, unless one of them is unreadable. -/
def readTests : List Section → Except Fault (List AtomicTest)
  | [] => .ok []
  | part :: rest =>
    match part.read with
    | .error fault => .error fault
    | .ok test => (readTests rest).map (test :: ·)

/-- The technique that the scanned lines of a page make. -/
def readLines (lines : List Line) : Except Fault Technique :=
  match Line.first? LineKind.title? lines with
  | none => .error .missingTitle
  | some (identifier, name) =>
    (readTests (sections lines)).map fun tests =>
      ⟨identifier, name, techniqueDescription? (preamble lines), tests⟩

/-- The technique that a page makes. -/
def read (page : Text) : Except Fault Technique :=
  readLines (scan page)

/-!
## Notes

Reading a page can report what it finds: each test with its executor and the
number of its arguments and dependencies, and at the end the technique.  It
also notes an inputs heading without a table and a dependency without a check,
which reading passes over in silence.

The notes end with the last test before one that is unreadable.
-/

/-- The note on a dependency without a check, where reading dependencies stopped. -/
def dependencyNotes (body : List Line) : List Log.Event :=
  match Line.afterFirst? DependencyBlock.heading? body with
  | none => []
  | some (_, rest) =>
    match DependencyBlock.stoppedAt? rest with
    | none => []
    | some line =>
      [⟨.trace,
        "dependency description without check prereq commands; stopping scan".toList,
        [("line", Text.ofNat line)]⟩]

/-- The note on an inputs heading without a well-formed table. -/
def inputNotes (body : List Line) : List Log.Event :=
  match Section.inputTexts? body with
  | none => []
  | some texts =>
    if (InputsTable.rows? texts).isSome then []
    else [⟨.trace, "inputs heading without a well-formed table".toList, []⟩]

/-- The note on a test that has been read. -/
def testNote (test : AtomicTest) : Log.Event :=
  ⟨.debug, "parsed atomic test".toList, [
    ("test", test.name),
    ("executor", test.executor.name),
    ("arguments", Text.ofNat test.arguments.entries.length),
    ("dependencies", Text.ofNat test.dependencies.length)]⟩

/-- The notes on sections, and how many tests there are if all could be read. -/
def sectionNotes : List Section → List Log.Event × Option Nat
  | [] => ([], some 0)
  | part :: rest =>
    match part.read with
    | .error _ => ([], none)
    | .ok test =>
      let (notes, count) := sectionNotes rest
      (dependencyNotes part.body ++ inputNotes part.body ++ testNote test :: notes,
        count.map (· + 1))

/-- The notes on a page; without a title nothing is read and nothing noted. -/
def notes (page : Text) : List Log.Event :=
  let lines := scan page
  match Line.first? LineKind.title? lines with
  | none => []
  | some (identifier, _) =>
    let (notes, count) := sectionNotes (sections lines)
    match count with
    | none => notes
    | some count =>
      notes ++ [⟨.debug, "parsed markdown document".toList,
        [("technique", identifier), ("tests", Text.ofNat count)]⟩]

end TechniquePages.Page
