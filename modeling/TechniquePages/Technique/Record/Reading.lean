import TechniquePages.Json.Reading
import TechniquePages.Technique.Record

/-!
# Reading technique records

A record is read field by field into a draft, which is then finished.  Null
stands for an empty value where a field has one, and the values of an
argument may also be written as numbers or truth values.

A manual executor is recognised by its name, so a cleanup command given with
it is dropped; the shared procedure key wins over the separate ones, and of
these the steps win over the command.
-/

namespace TechniquePages

open Json

/-- Read a text, a number or a truth value as a text; null is no text. -/
def readScalar : Reader (Option Text) := fun budget source =>
  match source.toJson budget with
  | .error fault => .error fault
  | .ok .null => .ok none
  | .ok (.string value) => .ok (some value)
  | .ok (.number value) => .ok (some value.text)
  | .ok (.boolean value) => .ok (some (booleanText value))
  | .ok value => .error (.notScalar value.canonical.compact)

/-- The parts of an argument as far as they have been read. -/
structure ArgumentDraft where
  name : Option Text
  description : Option (Option Text)
  type : Option (Option Text)
  value : Option (Option Text)

namespace ArgumentDraft

/-- Nothing has been read. -/
def blank : ArgumentDraft := ⟨none, none, none, none⟩

/-- The fields of an argument that do not name it. -/
def detailFields : List (FieldShape ArgumentDraft) := [
  .of "description" false readScalar (·.description)
    fun draft text => { draft with description := some text },
  .of "type" false readScalar (·.type)
    fun draft text => { draft with type := some text },
  .of "default" false readScalar (·.value)
    fun draft text => { draft with value := some text }]

/-- The name of an argument in a list; the key `name` is taken for it as well. -/
def nameField : FieldShape ArgumentDraft :=
  { FieldShape.of "arg_name" true readString (·.name)
      (fun draft (text : Text) => { draft with name := some text }) with
    otherName := some "name".toList }

/-- The argument of a name, with the details that have been read. -/
def named (draft : ArgumentDraft) (name : Text) : Argument :=
  ⟨name, draft.description.getD none, draft.type.getD none, draft.value.getD none⟩

/-- An argument in a list, where it says its own name. -/
def listedShape : RecordShape ArgumentDraft Argument where
  title := "Argument".toList
  fields := nameField :: detailFields
  blank := blank
  finish draft := (require "arg_name" draft.name).map draft.named

/-- The details of an argument that is keyed by its name. -/
def keyedShape : RecordShape ArgumentDraft ArgumentDraft where
  title := "OwnedKeyedFields".toList
  fields := detailFields
  blank := blank
  finish := .ok

end ArgumentDraft

/-- Read arguments from the members of an object; a repeated name replaces. -/
def readKeyedArguments
    (budget : Nat)
    (arguments : Arguments) : Members → Except Fault Arguments
  | .stop ending => (refuse ending.objectFault?).map fun () => arguments
  | .member key _ value tail =>
    match key with
    | .error fault => .error fault
    | .ok name =>
      match readOr .blank ArgumentDraft.keyedShape.read budget value with
      | .error fault => .error fault
      | .ok draft =>
        readKeyedArguments budget (arguments.insert (ArgumentDraft.named draft name)) tail

/-- Read the arguments of a test in either layout. -/
def readArguments : Reader Arguments
  | _, .null => .ok .empty
  | budget, .object members =>
    opening budget fun budget => readKeyedArguments budget .empty members
  | budget, .list items =>
    opening budget fun budget =>
      (readEach ArgumentDraft.listedShape.read budget items).map fun entries =>
        ⟨.listed, entries⟩
  | _, source =>
    .error (source.mismatch
      "an object keyed by argument name, a list of arguments, or null".toList)

/-- The parts of an executor as far as they have been read. -/
structure ExecutorDraft where
  name : Option Text
  elevated : Option Bool
  steps : Option (Option Text)
  command : Option (Option Text)
  procedure : Option (Option Text)
  cleanup : Option (Option Text)

namespace ExecutorDraft

/--
The executor of a draft and its name; blanks around the name do not count, and blanks
alone are no name.
-/
def executor (draft : ExecutorDraft) (written : Text) : Except Fault Executor :=
  let name := written.trim
  if name.isEmpty then .error .unnamedExecutor
  else
    let (procedure, key) :=
      match draft.procedure.getD none with
      | some text => (text, ProcedureKey.shared)
      | none =>
        (((draft.steps.getD none).or (draft.command.getD none)).getD [], .separate)
    let kind :=
      if name = Executor.manualName then ExecutorKind.manual
      else .command name (draft.cleanup.getD none)
    .ok ⟨kind, draft.elevated.getD false, procedure, key⟩

/--
The record of an executor.  Only its name is required; a procedure may be stored under
three keys.
-/
def shape : RecordShape ExecutorDraft Executor where
  title := "ExecutorRecord".toList
  fields := [
    .of "name" true readString (·.name)
      fun draft text => { draft with name := some text },
    .of "elevation_required" false (readOr false readBoolean) (·.elevated)
      fun draft value => { draft with elevated := some value },
    .of "steps" false (readOptional readString) (·.steps)
      fun draft text => { draft with steps := some text },
    .of "command" false (readOptional readString) (·.command)
      fun draft text => { draft with command := some text },
    .of "procedure" false (readOptional readString) (·.procedure)
      fun draft text => { draft with procedure := some text },
    .of "cleanup_command" false (readOptional readString) (·.cleanup)
      fun draft text => { draft with cleanup := some text }]
  blank := ⟨none, none, none, none, none, none⟩
  finish draft := do
    let name ← require "name" draft.name
    draft.executor name

end ExecutorDraft

/-- The parts of a dependency as far as they have been read. -/
structure DependencyDraft where
  description : Option Text
  check : Option Text
  get : Option (Option Text)

/-- The record of a dependency; without a check the check is empty. -/
def DependencyDraft.shape : RecordShape DependencyDraft Dependency where
  title := "Dependency".toList
  fields := [
    .of "description" true readString (·.description)
      fun draft text => { draft with description := some text },
    .of "prereq_command" false (readOr [] readString) (·.check)
      fun draft text => { draft with check := some text },
    .of "get_prereq_command" false (readOptional readString) (·.get)
      fun draft text => { draft with get := some text }]
  blank := ⟨none, none, none⟩
  finish draft := do
    let description ← require "description" draft.description
    .ok ⟨description, draft.check.getD [], draft.get.getD none⟩

/-- The parts of a test as far as they have been read. -/
structure TestDraft where
  name : Option Text
  description : Option Text
  platforms : Option (List Text)
  executor : Option Executor
  arguments : Option Arguments
  dependencies : Option (List Dependency)
  dependencyExecutor : Option (Option Text)
  guid : Option (Option Text)

/-- The record of a test; its name and its executor are required. -/
def TestDraft.shape : RecordShape TestDraft AtomicTest where
  title := "AtomicTest".toList
  fields := [
    .of "name" true readString (·.name)
      fun draft text => { draft with name := some text },
    .of "description" false (readOr [] readString) (·.description)
      fun draft text => { draft with description := some text },
    .of "supported_platforms" false (readOr [] (readList readString)) (·.platforms)
      fun draft platforms => { draft with platforms := some platforms },
    .of "executor" true ExecutorDraft.shape.read (·.executor)
      fun draft executor => { draft with executor := some executor },
    .of "input_arguments" false readArguments (·.arguments)
      fun draft arguments => { draft with arguments := some arguments },
    .of "dependencies" false (readOr [] (readList DependencyDraft.shape.read)) (·.dependencies)
      fun draft dependencies => { draft with dependencies := some dependencies },
    .of "dependency_executor_name" false (readOptional readString) (·.dependencyExecutor)
      fun draft text => { draft with dependencyExecutor := some text },
    .of "auto_generated_guid" false (readOptional readString) (·.guid)
      fun draft text => { draft with guid := some text }]
  blank := ⟨none, none, none, none, none, none, none, none⟩
  finish draft := do
    let name ← require "name" draft.name
    let executor ← require "executor" draft.executor
    .ok {
      name := name
      description := draft.description.getD []
      platforms := draft.platforms.getD []
      executor := executor
      arguments := draft.arguments.getD .empty
      dependencies := draft.dependencies.getD []
      dependencyExecutor := draft.dependencyExecutor.getD none
      guid := draft.guid.getD none }

/-- The parts of a technique as far as they have been read. -/
structure TechniqueDraft where
  identifier : Option Text
  name : Option Text
  description : Option (Option Text)
  tests : Option (List AtomicTest)

/-- The record of a technique; its tests need not be given in an object. -/
def TechniqueDraft.shape : RecordShape TechniqueDraft Technique where
  title := "Technique".toList
  fields := [
    .of "attack_technique" true readString (·.identifier)
      fun draft text => { draft with identifier := some text },
    .of "display_name" true readString (·.name)
      fun draft text => { draft with name := some text },
    .of "description" false (readOptional readString) (·.description)
      fun draft text => { draft with description := some text },
    .of "atomic_tests" false (readList TestDraft.shape.read) (·.tests)
      fun draft tests => { draft with tests := some tests }]
  blank := ⟨none, none, none, none⟩
  finish draft := do
    let identifier ← require "attack_technique" draft.identifier
    let name ← require "display_name" draft.name
    .ok ⟨identifier, name, draft.description.getD none, draft.tests.getD []⟩

/-- Read the record of a technique. -/
def Technique.ofRecord (text : Text) : Except Fault Technique :=
  readAll TechniqueDraft.shape.read text

/-- Read the record of an executor that stands alone. -/
def Executor.ofRecord (text : Text) : Except Fault Executor :=
  readAll ExecutorDraft.shape.read text

/-- Read the record of a test's arguments. -/
def Arguments.ofRecord (text : Text) : Except Fault Arguments :=
  readAll readArguments text

end TechniquePages
