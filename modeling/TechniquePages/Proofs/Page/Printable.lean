import TechniquePages.Page.Writing
import TechniquePages.Proofs.Page.Scanning
import TechniquePages.Proofs.Text.Lines

/-!
# Printable techniques

A page has marks, and a text that looks like a mark is read as one.  A technique
is printable when none of its texts looks like a mark of the part in which it is
written: no row of the table holds a bar, no line of a command looks like a
fence, no line of free text ends that text.

Commands are read with their references replaced.  A technique is well-formed
when it is printable and replacing references leaves its commands alone.
-/

namespace TechniquePages

open Unicode (isDecimalDigit)

/-- One line without blanks at its ends. -/
structure Text.IsLine (text : Text) : Prop where
  trimmed : Text.IsTrimmed text
  single : '\n' ∉ text

namespace Page

open Text (IsTrimmed IsReturnFree IsLine)

/-! ## Names and numbers -/

/-- A number of decimal digits of any script. -/
structure IsNumber (length : Nat) (text : Text) : Prop where
  length_eq : text.length = length
  digits : ∀ character ∈ text, isDecimalDigit character = true

/-- A technique's number: four digits, and three more if it is a part of another one. -/
inductive IsIdentifier : Text → Prop where
  | plain
    {main : Text}
    (number : IsNumber 4 main) :
    IsIdentifier ('T' :: main)
  | divided
    {main part : Text}
    (number : IsNumber 4 main)
    (more : IsNumber 3 part) :
    IsIdentifier ('T' :: (main ++ '.' :: part))

/-- The name of an interpreter: a word that can be the language of a fence. -/
structure IsInterpreter (name : Text) : Prop where
  nonempty : name ≠ []
  word : ∀ character ∈ name, Marker.isLanguageCharacter character = true

/-- An identifier of a test: groups of hexadecimal digits with hyphens between them. -/
def IsGuid (guid : Text) : Prop :=
  ∃ groups : List Text, groups.map List.length = [8, 4, 4, 4, 12] ∧
    (∀ group ∈ groups, ∀ character ∈ group, Marker.isHexDigit character = true) ∧
      guid = Text.joinWith ['-'] groups

/-- A platform whose display name can stand in a list and stands for it alone. -/
structure IsPlatform (token : Text) : Prop where
  line : IsLine (Platform.display token)
  nonempty : Platform.display token ≠ []
  undivided : ',' ∉ Platform.display token
  known : Platform.token (Platform.display token) = token

/-! ## Texts of many lines -/

/-- A command: no line of it closes a fence or opens a test. -/
structure IsCode (text : Text) : Prop where
  trimmed : IsTrimmed text
  returnFree : IsReturnFree text
  plain : ∀ line ∈ text.lines, IsCodeLine line

/-- Free text in a test: scanned by itself it leaves no fence open and ends nowhere. -/
structure IsFreeText (text : Text) : Prop where
  trimmed : IsTrimmed text
  returnFree : IsReturnFree text
  closed : ∀ line ∈ scan text, line.kind.isUnclosed = false
  unending : ∀ line ∈ scan text, line.kind.endsText = false
  unidentified : ∀ line ∈ scan text, line.kind.guid? = none

/-- The description of a test, which ends before the list of platforms. -/
structure IsDescription (text : Text) : Prop extends IsFreeText text where
  unlisted : ∀ line ∈ scan text, line.kind.platforms? = none

/-- Manual steps, which do not end in a line break. -/
structure IsSteps (text : Text) : Prop extends IsFreeText text where
  unbroken : ∀ line ∈ text.lines.getLast?, line.trim ≠ "<br/>".toList

/-- The description of a technique: no line of it ends the quotation or opens a test. -/
structure IsQuotation (text : Text) : Prop where
  trimmed : IsTrimmed text
  nonempty : text ≠ []
  returnFree : IsReturnFree text
  unclosed : ∀ line ∈ text.lines, line.trim ≠ "</blockquote>".toList
  free : ∀ line ∈ text.lines, isTestHeading line = false

/-- A cell of the table of inputs. -/
structure IsCell (text : Text) : Prop where
  line : IsLine text
  unbarred : '|' ∉ text
  decoded : Html.decode text = text

end Page

open Page
open Text (IsLine)

/-! ## Parts of a technique -/

/-- An argument whose fields are cells, present ones not empty. -/
structure Argument.IsPrintable (argument : Argument) : Prop where
  name : IsCell argument.name
  description : ∀ text ∈ argument.description, IsCell text ∧ text ≠ []
  type : ∀ text ∈ argument.type, IsCell text ∧ text ≠ []
  value : ∀ text ∈ argument.value, IsCell text ∧ text ≠ []

/-- Manual steps, or commands for an interpreter that is not printed as `cmd`. -/
def Executor.IsPrintable (executor : Executor) : Prop :=
  match executor.kind with
  | .manual => IsSteps executor.procedure
  | .command name cleanup =>
    (IsInterpreter name ∧ name.map Char.toLower ≠ "cmd".toList) ∧ IsCode executor.procedure ∧
      ∀ text ∈ cleanup, IsCode text ∧ text ≠ []

/-- A dependency with a description of one line and two commands. -/
structure Dependency.IsPrintable (dependency : Dependency) : Prop where
  description : IsLine dependency.description
  decoded : Html.decode dependency.description = dependency.description
  check : IsCode dependency.check
  get : ∀ text ∈ dependency.get, IsCode text ∧ text ≠ []

/-- A test of printable parts; its arguments have different names. -/
structure AtomicTest.IsPrintable (test : AtomicTest) : Prop where
  name : IsLine test.name
  named : test.name ≠ []
  description : IsDescription test.description
  platforms : ∀ token ∈ test.platforms, IsPlatform token
  executor : test.executor.IsPrintable
  arguments : ∀ argument ∈ test.arguments.entries, argument.IsPrintable
  distinct : (test.arguments.entries.map Argument.name).Nodup
  dependencies : ∀ dependency ∈ test.dependencies, dependency.IsPrintable
  /-- The interpreter of dependencies is named only where there are some and it differs. -/
  dependencyExecutor : ∀ name ∈ test.dependencyExecutor,
    IsInterpreter name ∧ name ≠ test.executor.name ∧ test.dependencies ≠ []
  guid : ∀ guid ∈ test.guid, IsGuid guid

/-- A technique of printable parts. -/
structure Technique.IsPrintable (technique : Technique) : Prop where
  identifier : IsIdentifier technique.identifier
  name : IsLine technique.name
  named : technique.name ≠ []
  description : ∀ text ∈ technique.description, IsQuotation text
  tests : ∀ test ∈ technique.tests, test.IsPrintable

/-- The commands of an executor; manual steps are none. -/
def Executor.commands (executor : Executor) : List Text :=
  match executor.kind with
  | .manual => []
  | .command _ cleanup => executor.procedure :: cleanup.toList

/-- The commands of a dependency. -/
def Dependency.commands (dependency : Dependency) : List Text :=
  dependency.check :: dependency.get.toList

/-- All commands of a test. -/
def AtomicTest.commands (test : AtomicTest) : List Text :=
  test.executor.commands ++ test.dependencies.flatMap Dependency.commands

/-- A printable technique in whose commands nothing is a reference. -/
structure Technique.IsWellFormed (technique : Technique) : Prop extends
    technique.IsPrintable where
  decoded : ∀ test ∈ technique.tests, ∀ command ∈ test.commands, Html.decode command = command

/-! ## What a page gives back -/

/-- An executor as it is read: commands decoded, under the key of its kind. -/
def Executor.reread (executor : Executor) : Executor :=
  match executor.kind with
  | .manual => { executor with key := .separate }
  | .command name cleanup => {
      executor with
      kind := .command name (cleanup.map Html.decode)
      procedure := Html.decode executor.procedure
      key := .separate }

/-- A dependency as it is read: commands decoded. -/
def Dependency.reread (dependency : Dependency) : Dependency :=
  { dependency with
    check := Html.decode dependency.check
    get := dependency.get.map Html.decode }

/-- A test as it is read: commands decoded, arguments keyed by name. -/
def AtomicTest.reread (test : AtomicTest) : AtomicTest :=
  { test with
    executor := test.executor.reread
    arguments := test.arguments.toKeyed
    dependencies := test.dependencies.map Dependency.reread }

/-- A technique as it is read. -/
def Technique.reread (technique : Technique) : Technique :=
  technique.mapTests AtomicTest.reread

/-- A test in the one shape that a page can give back. -/
def AtomicTest.inPageShape (test : AtomicTest) : AtomicTest :=
  { test with
    executor := { test.executor with key := .separate }
    arguments := test.arguments.toKeyed }

/-- A technique whose arguments are all keyed and whose procedures stand under their own keys. -/
def Technique.inPageShape (technique : Technique) : Technique :=
  technique.mapTests AtomicTest.inPageShape

end TechniquePages
