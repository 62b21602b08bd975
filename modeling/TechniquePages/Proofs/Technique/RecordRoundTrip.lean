import TechniquePages.Format
import TechniquePages.Proofs.Technique.Representable

/-!
# Records are read back

A record is written member by member, and its reader takes the members in any
order into a draft.  Where the written members are the fields of the record, each
of them once, the draft is complete at the end and the finished value is the
written one.  The parts of a technique are read back from the inside out:
arguments, executors, dependencies, tests.
-/

namespace TechniquePages

open Json
open Text (IsTrimmed)

/-! ## Parts of a test -/

theorem read_argument
    (budget : Nat)
    (argument : Argument) :
    ArgumentDraft.listedShape.read (budget + 1) (source argument.toJson) = .ok argument := by
  rcases argument with ⟨name, description, type, value⟩
  cases description <;> cases type <;> cases value <;> rfl

/-- The details of a keyed argument are read back beside its name. -/
theorem read_details
    (budget : Nat)
    (argument : Argument) :
    ∃ draft, readOr .blank ArgumentDraft.keyedShape.read (budget + 1)
        (source (.object argument.detailMembers)) = .ok draft ∧
      ArgumentDraft.named draft argument.name = argument := by
  rcases argument with ⟨name, description, type, value⟩
  cases description <;> cases type <;> cases value <;> exact ⟨_, rfl, rfl⟩

/-- Keyed arguments are inserted one after the other. -/
theorem readKeyedArguments_sourceMembers
    (budget : Nat)
    (arguments : Arguments)
    (entries : List Argument) :
    readKeyedArguments (budget + 1) arguments
        (sourceMembers (entries.map fun argument =>
          (argument.name, .object argument.detailMembers))) =
      .ok (entries.foldl Arguments.insert arguments) := by
  induction entries generalizing arguments with
  | nil => rfl
  | cons argument rest hypothesis =>
    rcases read_details budget argument with ⟨draft, read, named⟩
    rw [List.map_cons, sourceMembers, readKeyedArguments, read]
    simp only [named, hypothesis, List.foldl_cons]

theorem read_arguments
    (budget : Nat)
    {arguments : Arguments}
    (representable : arguments.IsRepresentable) :
    readArguments (budget + 2) (source arguments.toJson) = .ok arguments := by
  rcases arguments with ⟨layout, entries⟩
  cases layout with
  | keyed =>
    have distinct : (entries.map Argument.name).Nodup := representable rfl
    have inserted := @Arguments.foldl_insert [] entries (by simpa using distinct)
    have read := readKeyedArguments_sourceMembers budget .empty entries
    exact read.trans (congrArg Except.ok inserted)
  | listed =>
    have each := @readEach_sourceItems _ ArgumentDraft.listedShape.read Argument.toJson (budget + 1)
      entries fun argument _ => read_argument budget argument
    change (readEach ArgumentDraft.listedShape.read (budget + 1)
      (sourceItems (entries.map Argument.toJson))).map (Arguments.mk .listed) =
        .ok ⟨.listed, entries⟩
    rw [each]
    rfl

theorem read_dependency
    (budget : Nat)
    (dependency : Dependency) :
    DependencyDraft.shape.read (budget + 1) (source dependency.toJson) = .ok dependency := by
  rcases dependency with ⟨description, check, get⟩
  cases get <;> rfl

/-- The draft that the record of an executor is read into. -/
def ExecutorDraft.written (executor : Executor) : ExecutorDraft :=
  let blank : ExecutorDraft :=
    ⟨some executor.name, some executor.elevated, none, none, none, executor.cleanup?.map some⟩
  match executor.key, executor.kind with
  | .shared, _ => { blank with procedure := some (some executor.procedure) }
  | .separate, .manual => { blank with steps := some (some executor.procedure) }
  | .separate, .command _ _ => { blank with command := some (some executor.procedure) }

theorem read_written_executor
    (budget : Nat)
    (executor : Executor) :
    ExecutorDraft.shape.read (budget + 1) (source executor.toJson) =
      (ExecutorDraft.written executor).executor executor.name := by
  rcases executor with ⟨kind, elevated, procedure, key⟩
  cases kind with
  | manual => cases key <;> simp only [Executor.toJson, Executor.procedureKey] <;> rfl
  | command name cleanup =>
    cases key <;> cases cleanup <;> simp only [Executor.toJson, Executor.procedureKey] <;> rfl

/-- A trimmed name is told apart from the one for manual tests. -/
theorem executor_written
    {executor : Executor}
    (representable : executor.IsRepresentable) :
    (ExecutorDraft.written executor).executor executor.name = .ok executor := by
  rcases executor with ⟨kind, elevated, procedure, key⟩
  cases kind with
  | manual =>
    have trimmed : Executor.manualName.trim = Executor.manualName := by decide +kernel
    have named : Executor.manualName.isEmpty = false := rfl
    cases key <;>
      simp [ExecutorDraft.executor, ExecutorDraft.written, Executor.name, trimmed, named]
  | command name cleanup =>
    rcases representable with ⟨trimmed, named, notManual⟩
    cases key <;> cases cleanup <;>
      simp [ExecutorDraft.executor, ExecutorDraft.written, Executor.name,
        Executor.cleanup?, trimmed.trim_eq, named, notManual]

theorem read_executor
    (budget : Nat)
    {executor : Executor}
    (representable : executor.IsRepresentable) :
    ExecutorDraft.shape.read (budget + 1) (source executor.toJson) = .ok executor :=
  (read_written_executor budget executor).trans (executor_written representable)

/-! ## Tests and techniques -/

theorem read_platforms
    (budget : Nat)
    (platforms : List Text) :
    readOr [] (readList readString) (budget + 1) (source (.array (platforms.map .string))) =
      .ok platforms :=
  (readOr_list [] _ _ _).trans (readList_source fun _ _ => rfl)

theorem read_dependencies
    (budget : Nat)
    (dependencies : List Dependency) :
    readOr [] (readList DependencyDraft.shape.read) (budget + 2)
        (source (.array (dependencies.map Dependency.toJson))) = .ok dependencies :=
  (readOr_list [] _ _ _).trans
    (readList_source fun dependency _ => read_dependency budget dependency)

/-- The draft that the record of a test is read into. -/
def TestDraft.written (test : AtomicTest) : TestDraft where
  name := some test.name
  description := some test.description
  platforms := some test.platforms
  executor := some test.executor
  arguments := some test.arguments
  dependencies := if test.dependencies.isEmpty then none else some test.dependencies
  dependencyExecutor := test.dependencyExecutor.map some
  guid := test.guid.map some

/-- The parts that are left out are the empty ones. -/
theorem finish_written_test (test : AtomicTest) :
    TestDraft.shape.finish (TestDraft.written test) = .ok test := by
  rcases test with
    ⟨name, description, platforms, executor, arguments, dependencies, dependencyExecutor, guid⟩
  cases dependencies <;> cases dependencyExecutor <;> cases guid <;> rfl

theorem read_test
    (budget : Nat)
    {test : AtomicTest}
    (representable : test.IsRepresentable) :
    TestDraft.shape.read (budget + 3) (source test.toJson) = .ok test := by
  have platforms := read_platforms (budget + 1) test.platforms
  have executor := read_executor (budget + 1) representable.executor
  have arguments := read_arguments budget representable.arguments
  have dependencies := read_dependencies budget test.dependencies
  refine read_object ?_ (finish_written_test test)
  refine (readObject_member rfl rfl rfl _ _).trans ?_
  refine (readObject_member rfl rfl rfl _ _).trans ?_
  refine (readObject_member rfl rfl platforms _ _).trans ?_
  refine (readObject_member rfl rfl executor _ _).trans ?_
  refine (readObject_member rfl rfl arguments _ _).trans ?_
  rcases test with
    ⟨name, description, platforms, executor, arguments, _ | ⟨dependency, rest⟩,
      dependencyExecutor, guid⟩
  · cases dependencyExecutor <;> cases guid <;> rfl
  · refine (readObject_member rfl rfl dependencies _ _).trans ?_
    cases dependencyExecutor <;> cases guid <;> rfl

/-- The draft that the record of a technique is read into. -/
def TechniqueDraft.written (technique : Technique) : TechniqueDraft where
  identifier := some technique.identifier
  name := some technique.name
  description := technique.description.map some
  tests := some technique.tests

theorem finish_written_technique (technique : Technique) :
    TechniqueDraft.shape.finish (TechniqueDraft.written technique) = .ok technique := by
  rcases technique with ⟨identifier, name, description, tests⟩
  cases description <;> rfl

theorem read_technique
    (budget : Nat)
    {technique : Technique}
    (representable : technique.IsRepresentable) :
    TechniqueDraft.shape.read (budget + 5) (source technique.toJson) = .ok technique := by
  have tests : readList TestDraft.shape.read (budget + 4)
      (source (.array (technique.tests.map AtomicTest.toJson))) = .ok technique.tests :=
    readList_source fun test member => read_test budget (representable test member)
  refine read_object ?_ (finish_written_technique technique)
  rcases technique with ⟨identifier, name, description, tests⟩
  refine (readObject_member rfl rfl rfl _ _).trans ?_
  refine (readObject_member rfl rfl rfl _ _).trans ?_
  cases description with
  | none => exact (readObject_member rfl rfl tests _ _).trans rfl
  | some text =>
    refine (readObject_member rfl rfl rfl _ _).trans ?_
    exact (readObject_member rfl rfl tests _ _).trans rfl

/-! ## Records hold no numbers -/

@[simp]
theorem haveNumberFree_append
    (first second : List (Text × Json)) :
    HaveNumberFree (first ++ second) ↔ HaveNumberFree first ∧ HaveNumberFree second := by
  induction first with
  | nil => simp [HaveNumberFree]
  | cons member rest hypothesis => simp [HaveNumberFree, hypothesis, and_assoc]

@[simp]
theorem haveNumberFree_always
    (key : String)
    (value : Json) :
    HaveNumberFree (Json.always key value) ↔ IsNumberFree value := by
  simp [Json.always, HaveNumberFree]

@[simp]
theorem haveNumberFree_ifPresent
    (key : String)
    (text : Option Text) :
    HaveNumberFree (Json.ifPresent key text) := by
  cases text <;> simp [Json.ifPresent, HaveNumberFree, IsNumberFree]

theorem areNumberFree_map
    {α : Type}
    {toJson : α → Json}
    (numberFree : ∀ value, IsNumberFree (toJson value))
    (values : List α) :
    AreNumberFree (values.map toJson) := by
  induction values with
  | nil => trivial
  | cons value rest hypothesis => exact ⟨numberFree value, hypothesis⟩

@[simp]
theorem haveNumberFree_details (argument : Argument) :
    HaveNumberFree argument.detailMembers := by
  simp [Argument.detailMembers]

theorem isNumberFree_argument (argument : Argument) : IsNumberFree argument.toJson := by
  simp [Argument.toJson, IsNumberFree]

theorem isNumberFree_arguments (arguments : Arguments) : IsNumberFree arguments.toJson := by
  rcases arguments with ⟨layout, entries⟩
  cases layout with
  | keyed =>
    change HaveNumberFree (entries.map _)
    induction entries with
    | nil => trivial
    | cons argument rest hypothesis => exact ⟨haveNumberFree_details argument, hypothesis⟩
  | listed => exact areNumberFree_map isNumberFree_argument entries

theorem isNumberFree_executor (executor : Executor) : IsNumberFree executor.toJson := by
  simp [Executor.toJson, IsNumberFree]

theorem isNumberFree_dependency (dependency : Dependency) : IsNumberFree dependency.toJson := by
  simp [Dependency.toJson, IsNumberFree]

theorem isNumberFree_test (test : AtomicTest) : IsNumberFree test.toJson := by
  have platforms : AreNumberFree (test.platforms.map Json.string) :=
    areNumberFree_map (fun _ => by simp [IsNumberFree]) test.platforms
  have dependencies : HaveNumberFree test.dependencyMembers := by
    rw [AtomicTest.dependencyMembers]
    cases test.dependencies with
    | nil => trivial
    | cons dependency rest =>
      exact ⟨areNumberFree_map isNumberFree_dependency (dependency :: rest), trivial⟩
  simp [AtomicTest.toJson, IsNumberFree, platforms, dependencies, isNumberFree_executor,
    isNumberFree_arguments]

theorem isNumberFree_technique (technique : Technique) : IsNumberFree technique.toJson := by
  have tests := areNumberFree_map isNumberFree_test technique.tests
  simp [Technique.toJson, IsNumberFree, tests]

/-! ## Whole records -/

/-- A record is its JSON value, written with blanks in between and at the end. -/
theorem exists_record_eq_writeAt
    (layout : RecordLayout)
    (technique : Technique) :
    ∃ blanks ending, blanks.IsBlank ∧ IsBlank ending ∧
      technique.record layout = writeAt blanks 0 technique.toJson ++ ending := by
  cases layout with
  | spread =>
    refine ⟨.wide, ['\n'], isBlank_wide, by simp [IsBlank, isSpace], ?_⟩
    rw [Technique.record, Json.spread, spreadAt_eq]
  | compact =>
    refine ⟨.tight, [], isBlank_tight, by simp [IsBlank], ?_⟩
    rw [Technique.record, compact_eq 0, List.append_nil]

/-- The record of a technique is read back as the technique in both layouts. -/
theorem ofRecord_record
    (layout : RecordLayout)
    {technique : Technique}
    (representable : technique.IsRepresentable) :
    Technique.ofRecord (technique.record layout) = .ok technique := by
  have known : TechniqueDraft.shape.read depthLimit (source technique.toJson) = .ok technique :=
    read_technique 122 representable
  rcases exists_record_eq_writeAt layout technique with ⟨blanks, ending, blank, spaces, written⟩
  rw [written]
  exact readAll_writeAt blank (isNumberFree_technique technique) 0 spaces known

/--
What is read from a record is representable, and every representable technique
is read back from its own record.
-/
theorem Format.json_round_trip (layout : RecordLayout) :
    (∀ text technique,
      (Format.json layout).read text = .ok technique → technique.IsRepresentable) ∧
    ∀ technique : Technique, technique.IsRepresentable →
      (Format.json layout).write technique >>= (Format.json layout).read = .ok technique := by
  constructor
  · intro text technique known
    have read : Technique.ofRecord text = .ok technique := by
      change (Technique.ofRecord text).mapError FormatFault.record = .ok technique at known
      cases outcome : Technique.ofRecord text with
      | error fault =>
        rw [outcome] at known
        cases known
      | ok value =>
        rw [outcome] at known
        cases known
        rfl
    exact isRepresentable_of_ofRecord read
  · intro technique representable
    change (Technique.ofRecord (technique.record layout)).mapError FormatFault.record = _
    rw [ofRecord_record layout representable]
    rfl

/-- A technique whose record keys an argument by its name. -/
def keyedTechnique : Technique where
  identifier := "T1059".toList
  name := "Shell".toList
  description := none
  tests := [{
    name := "Echo".toList
    description := []
    platforms := []
    executor := .command "sh".toList "echo".toList
    arguments := ⟨.keyed, [⟨"word".toList, none, none, some "x".toList⟩]⟩
    dependencies := []
    dependencyExecutor := none
    guid := none }]

/-- A record of it, with blanks around the name of the executor. -/
def keyedRecord : Text :=
  "\x7b\"attack_technique\":\"T1059\",\"display_name\":\"Shell\",".toList ++
    "\"atomic_tests\":[\x7b\"name\":\"Echo\",".toList ++
    "\"input_arguments\":\x7b\"word\":\x7b\"default\":\"x\"\x7d\x7d,".toList ++
    "\"executor\":\x7b\"name\":\" sh \",\"command\":\"echo\"\x7d\x7d]\x7d".toList

theorem Format.json_round_trip_keyedTechnique :
    keyedTechnique.IsRepresentable ∧
      (Format.json .spread).write keyedTechnique >>= (Format.json .spread).read =
        .ok keyedTechnique := by
  have read : (Format.json .spread).read keyedRecord = .ok keyedTechnique := by decide +kernel
  have representable := (json_round_trip .spread).1 keyedRecord keyedTechnique read
  exact ⟨representable, (json_round_trip .spread).2 keyedTechnique representable⟩

end TechniquePages
