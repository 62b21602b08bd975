import TechniquePages.Page.DependencyBlock
import TechniquePages.Page.InputsTable
import TechniquePages.Page.Platform

/-!
# Writing a page

A page is written from top to bottom: the title, the quoted description, an
index of the tests, and one block for each test between line breaks.  Parts
that are absent or blank are left out, except the list of platforms, which may
be empty.  The page ends in one line feed.

The index links to the tests by anchors.  An anchor is the title in lower
case, with hyphens for spaces and without punctuation.
-/

namespace TechniquePages.Page

/-- The characters that an anchor leaves out. -/
def anchorPunctuation : Text :=
  "`~!@#$%^&*()+=<>?,./:;\"'|\x7b\x7d[]\\–—".toList

/-- The anchor of a title. -/
def anchor (title : Text) : Text :=
  ((Unicode.lower title).map fun character => if character = ' ' then '-' else character).filter
    fun character => !anchorPunctuation.contains character

example : anchor "Atomic Test #1 - Dump creds (reg.exe)".toList =
    "atomic-test-1---dump-creds-regexe".toList := by decide +kernel

/-- The title of a test; tests are counted from one. -/
def testTitle
    (number : Nat)
    (name : Text) : Text :=
  "Atomic Test #".toList ++ Text.ofNat number ++ " - ".toList ++ name

/-- The lines of the quoted description; a blank one is left out. -/
def writeDescription (technique : Technique) : List Text :=
  match technique.description with
  | none => []
  | some description =>
    if description.trim.isEmpty then []
    else [
      "## [Description from ATT&CK](https://attack.mitre.org/techniques/".toList ++
        technique.identifier.map (fun character => if character = '.' then '/' else character) ++
        ")".toList,
      "<blockquote>".toList, [], description.trim, [], "</blockquote>".toList]

/-- The lines of the index, given the number of the first test. -/
def writeIndex (number : Nat) : List AtomicTest → List Text
  | [] => []
  | test :: rest =>
    let title := testTitle number test.name
    ("- [".toList ++ title ++ "](#".toList ++ anchor title ++ ")".toList) ::
      writeIndex (number + 1) rest

/-- The lines of the guid; an empty one is left out. -/
def writeGuid : Option Text → List Text
  | none => []
  | some guid =>
    if guid.isEmpty then [] else ["**auto_generated_guid:** ".toList ++ guid, []]

/-- The lines of the inputs; no arguments make no table. -/
def writeInputs (arguments : Arguments) : List Text :=
  if arguments.entries.isEmpty then []
  else "#### Inputs:".toList :: (InputsTable.write arguments ++ [[]])

/-- The lines of the dependencies, if there are any. -/
def writeDependencies (test : AtomicTest) : List Text :=
  if test.dependencies.isEmpty then []
  else DependencyBlock.write test.dependencyInterpreter test.dependencies ++ [[]]

/-- The lines of a test's own description; a blank one is left out. -/
def writeTestDescription (description : Text) : List Text :=
  if description.trim.isEmpty then [] else [description.trim]

/-- The lines of a test, between two line breaks. -/
def writeTest
    (number : Nat)
    (test : AtomicTest) : List Text :=
  "<br/>".toList :: [] ::
    ("## ".toList ++ testTitle number test.name) ::
    (writeTestDescription test.description ++ [] ::
      ("**Supported Platforms:** ".toList ++ Platform.writeList test.platforms) ::
      [] ::
      (writeGuid test.guid ++ writeInputs test.arguments ++
        ExecutorBlock.write test.executor ++ [] ::
        (writeDependencies test ++ ["<br/>".toList])))

/-- The lines of tests, given the number of the first one. -/
def writeTests (number : Nat) : List AtomicTest → List Text
  | [] => []
  | test :: rest => writeTest number test ++ writeTests (number + 1) rest

/-- The lines of a page before its end is trimmed. -/
def writeLines (technique : Technique) : List Text :=
  ("# ".toList ++ technique.identifier ++ " - ".toList ++ technique.name) ::
    (writeDescription technique ++ [] :: "## Atomic Tests".toList :: [] ::
      (writeIndex 1 technique.tests ++ [] :: writeTests 1 technique.tests))

/-- The page of a technique. -/
def write (technique : Technique) : Text :=
  (Text.joinLines (writeLines technique)).trimEnd ++ ['\n']

example : write (Technique.bare "T1000".toList "Empty".toList) =
    "# T1000 - Empty\n\n## Atomic Tests\n".toList := by decide +kernel

end TechniquePages.Page
