import TechniquePages.Page.Scan
import TechniquePages.Technique

/-!
# The executor of a test

The first executor heading of a section decides how the test is carried out.
Manual steps run up to the next heading that ends free text.  A command stands
in the first fenced block after its heading, and a cleanup command in the
first block after a cleanup heading that follows it.

An interpreter printed as `cmd` is the command prompt.
-/

namespace TechniquePages.Page

/-!
## Faults of a page

A page is tolerant: what is missing is left empty.  Only four things make it
unreadable, and each has one wording.
-/

/-- Why a page cannot be read. -/
inductive Fault where
  /-- No line is the heading that names the technique. -/
  | missingTitle
  /-- A test has no executor heading. -/
  | missingExecutor (test : Text)
  /-- No fenced block follows the heading of an attack command. -/
  | missingCommand (test : Text)
  /-- A block of a test has no end before the next test. -/
  | unclosedFence (line : Nat)
  deriving DecidableEq

/-- The wording of a fault. -/
def Fault.message : Fault → Text
  | .missingTitle => "unable to find technique header '# Txxxx - Name'".toList
  | .missingExecutor test =>
    "no executor found in atomic test '".toList ++ test ++ "'".toList
  | .missingCommand test =>
    "no fenced command block after the attack commands heading in atomic test '".toList ++
      test ++ "'".toList
  | .unclosedFence line =>
    "fenced code block opened on line ".toList ++ Text.ofNat line ++ " is never closed".toList

namespace ExecutorBlock

/-! ## Executors -/

/-- An executor heading: by hand, or by an interpreter. -/
inductive Heading where
  | manual (elevated : Bool)
  | command (executor : Text) (elevated : Bool)
  deriving DecidableEq

/-- What a line says about the executor, if it is an executor heading. -/
def heading? : LineKind → Option Heading
  | .manualHeading elevated => some (.manual elevated)
  | .commandHeading executor elevated => some (.command executor elevated)
  | _ => none

/-- A line that may stand between the steps and the next heading. -/
def isFiller (line : Line) : Bool :=
  let text := line.text.trim
  text.isEmpty || text == "<br/>".toList

/-- The steps in a run of lines; fillers at the end do not count. -/
def steps (lines : List Line) : Text :=
  (Line.join (lines.reverse.dropWhile isFiller).reverse).trim

/-- The name that a printed interpreter is stored under. -/
def storedName (printed : Text) : Text :=
  let name := printed.trim
  -- Only this one name is compared without regard to case, and only by ASCII letters.
  if name.map Char.toLower = "cmd".toList then "command_prompt".toList else name

/-- The text, unless it is empty and so counts as absent. -/
def nonEmpty? (text : Text) : Option Text :=
  if text.isEmpty then none else some text

/-- The cleanup command in the lines after the command. -/
def cleanup? (lines : List Line) : Option Text := do
  let after ← Line.after? .cleanupHeading lines
  let block ← FencedBlock.first? after
  nonEmpty? block.content

/-- The executor that a section describes. -/
def read
    (test : Text)
    (body : List Line) : Except Fault Executor :=
  match Line.afterFirst? heading? body with
  | none => .error (.missingExecutor test)
  | some (.manual elevated, rest) =>
    .ok ⟨.manual, elevated, steps (rest.takeWhile fun line => !line.kind.endsText), .separate⟩
  | some (.command executor elevated, rest) =>
    match FencedBlock.first? rest with
    | none => .error (.missingCommand test)
    | some block =>
      .ok ⟨.command (storedName executor) (cleanup? block.rest), elevated, block.content,
        .separate⟩

/-- What a heading says when elevated rights are needed. -/
def elevationMark (elevated : Bool) : Text :=
  if elevated then "  Elevation Required (e.g. root or admin) ".toList else []

/-- The language of an interpreter's fenced blocks. -/
def language (executor : Text) : Text :=
  if executor = "command_prompt".toList then "cmd".toList
  else if executor = Executor.manualName then []
  else executor

/-- The lines of a cleanup command; a blank one is left out. -/
def writeCleanup (language : Text) : Option Text → List Text
  | none => []
  | some cleanup =>
    if cleanup.trim.isEmpty then []
    else [] :: "#### Cleanup Commands:".toList :: FencedBlock.write language cleanup

/-- The lines of an executor: its heading, and steps or fenced commands. -/
def write (executor : Executor) : List Text :=
  match executor.kind with
  | .manual =>
    ["#### Run it with these steps!".toList ++ elevationMark executor.elevated, [],
      executor.procedure.trim]
  | .command name cleanup =>
    ("#### Attack Commands: Run with `".toList ++ name ++ "`!".toList ++
        elevationMark executor.elevated) ::
      [] :: (FencedBlock.write (language name) executor.procedure ++
        writeCleanup (language name) cleanup)

end ExecutorBlock

end TechniquePages.Page
