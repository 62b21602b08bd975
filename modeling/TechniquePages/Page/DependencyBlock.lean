import TechniquePages.Page.ExecutorBlock

/-!
# The dependencies of a test

Below the dependencies heading each dependency has a description heading, a
check heading with a fenced block, and perhaps a get heading with another one.
A dependency reaches up to the next description heading.

Reading stops at the first dependency without a check heading.  The heading's
interpreter is kept only if it is not the test's own.
-/

namespace TechniquePages.Page.DependencyBlock

/-- The lines of a dependency, given those after its description. -/
def extent (lines : List Line) : List Line :=
  lines.takeWhile fun line => line.kind.dependency?.isNone

/-- The command after a get heading. -/
def get? (lines : List Line) : Option Text := do
  let after ← Line.after? .getHeading lines
  let block ← FencedBlock.first? after
  ExecutorBlock.nonEmpty? block.content

/-- The dependency that a description and its lines make; there is none without a check. -/
def dependency?
    (description : Text)
    (lines : List Line) : Option Dependency :=
  match Line.after? .checkHeading lines with
  | none => none
  | some after =>
    match FencedBlock.first? after with
    | none => some ⟨Html.decode description, [], get? after⟩
    | some block => some ⟨Html.decode description, block.content, get? block.rest⟩

/-- The dependencies in a run of lines, up to the first one without a check. -/
def readFrom : List Line → List Dependency
  | [] => []
  | line :: rest =>
    match line.kind.dependency? with
    | none => readFrom rest
    | some description =>
      match dependency? description (extent rest) with
      | none => []
      | some dependency => dependency :: readFrom rest

/-- The number of the description line at which reading stopped, if it did. -/
def stoppedAt? : List Line → Option Nat
  | [] => none
  | line :: rest =>
    match line.kind.dependency? with
    | none => stoppedAt? rest
    | some description =>
      match dependency? description (extent rest) with
      | none => some line.number
      | some _ => stoppedAt? rest

/-- The interpreter that a line names for the dependencies, if it is their heading. -/
def heading? : LineKind → Option Text
  | .dependenciesHeading executor => some executor.trim
  | _ => none

/-- The interpreter of the dependencies if it differs, and the dependencies. -/
def read
    (executor : Text)
    (body : List Line) : Option Text × List Dependency :=
  match Line.afterFirst? heading? body with
  | none => (none, [])
  | some (printed, rest) =>
    (if printed = executor then none else some printed, readFrom rest)

/-- The lines of a get command; a blank one is left out. -/
def writeGet (language : Text) : Option Text → List Text
  | none => []
  | some get =>
    if get.trim.isEmpty then []
    else "##### Get Prereq Commands:".toList :: FencedBlock.write language get

/-- The lines of one dependency; an empty check leaves an empty block. -/
def writeOne
    (language : Text)
    (dependency : Dependency) : List Text :=
  ("##### Description: ".toList ++ dependency.description.trim) ::
    "##### Check Prereq Commands:".toList ::
    (FencedBlock.write language dependency.check ++ writeGet language dependency.get)

/-- The lines of a test's dependencies. -/
def write
    (executor : Text)
    (dependencies : List Dependency) : List Text :=
  ("#### Dependencies:  Run with `".toList ++ executor ++ "`!".toList) ::
    dependencies.flatMap (writeOne (ExecutorBlock.language executor))

end TechniquePages.Page.DependencyBlock
