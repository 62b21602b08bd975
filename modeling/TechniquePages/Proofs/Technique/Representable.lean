import TechniquePages.Proofs.Json.Records
import TechniquePages.Proofs.Technique.Arguments
import TechniquePages.Proofs.Text.Trim
import TechniquePages.Technique.Record.Reading

/-!
# What a record can hold

A record does not hold every technique.  The name of an executor is trimmed when
it is read and tells a test that is carried out by hand, and keyed arguments
replace one another.  So every technique that is read has executors whose names
pass through that, and keyed arguments with different names.
-/

namespace TechniquePages

open Json
open Text (IsTrimmed isTrimmed_trim)

/-- A command executor has a name, which is trimmed and is not the one for manual tests. -/
def Executor.IsRepresentable (executor : Executor) : Prop :=
  match executor.kind with
  | .manual => True
  | .command name _ => IsTrimmed name ∧ name ≠ [] ∧ name ≠ Executor.manualName

/-- Keyed arguments have different names. -/
def Arguments.IsRepresentable (arguments : Arguments) : Prop :=
  arguments.layout = .keyed → arguments.names.Nodup

/-- A test whose executor and arguments a record can hold. -/
structure AtomicTest.IsRepresentable (test : AtomicTest) : Prop where
  executor : test.executor.IsRepresentable
  arguments : test.arguments.IsRepresentable

/-- A technique whose tests a record can hold. -/
def Technique.IsRepresentable (technique : Technique) : Prop :=
  ∀ test ∈ technique.tests, test.IsRepresentable

/-! ## Executors -/

/-- A finished executor has the trimmed name, unless that is the one for manual tests. -/
theorem isRepresentable_of_executor
    {draft : ExecutorDraft}
    {written : Text}
    {executor : Executor}
    (known : draft.executor written = .ok executor) :
    executor.IsRepresentable := by
  rw [ExecutorDraft.executor] at known
  by_cases empty : written.trim = []
  · simp [empty] at known
  · rw [if_neg (by simpa using empty)] at known
    cases known
    by_cases manual : written.trim = Executor.manualName
    · simp [Executor.IsRepresentable, manual]
    · simp only [Executor.IsRepresentable, if_neg manual]
      exact ⟨isTrimmed_trim written, empty, manual⟩

theorem ensures_executor : Ensures ExecutorDraft.shape.read Executor.IsRepresentable := by
  refine Ensures.record (fun _ => True) (fun _ _ _ _ _ _ _ _ => trivial) trivial ?_
  intro draft executor _ finished
  rcases bind_eq_ok finished with ⟨written, -, known⟩
  exact isRepresentable_of_executor known

/-! ## Arguments -/

/-- Keyed arguments keep different names while they are read. -/
theorem nodup_of_readKeyedArguments
    {budget : Nat}
    {arguments result : Arguments}
    {members : Members}
    (keyed : arguments.layout = .keyed)
    (distinct : arguments.names.Nodup)
    (known : readKeyedArguments budget arguments members = .ok result) :
    result.names.Nodup := by
  fun_induction readKeyedArguments budget arguments members with
  | case1 arguments ending =>
    rcases map_eq_ok known with ⟨_, -, rfl⟩
    exact distinct
  | case2 => cases known
  | case3 => cases known
  | case4 arguments _ value tail name draft read hypothesis =>
    have inserted := Arguments.nodup_insert keyed distinct (draft.named name)
    exact hypothesis inserted.1 inserted.2 known

theorem ensures_arguments : Ensures readArguments Arguments.IsRepresentable := by
  intro budget source arguments known
  cases source with
  | null =>
    cases known
    exact fun _ => List.nodup_nil
  | object members =>
    rcases opening_eq_ok known with ⟨smaller, inside⟩
    have start : Arguments.empty.names.Nodup := List.nodup_nil
    exact fun _ => nodup_of_readKeyedArguments rfl start inside
  | list items =>
    rcases opening_eq_ok known with ⟨smaller, inside⟩
    rcases map_eq_ok inside with ⟨entries, -, rfl⟩
    exact fun keyed => by cases keyed
  | _ => cases known

/-! ## Tests and techniques -/

/-- What has been read of a test so far is something that a record can hold. -/
def TestDraft.IsRepresentable (draft : TestDraft) : Prop :=
  (∀ executor, draft.executor = some executor → executor.IsRepresentable) ∧
    ∀ arguments, draft.arguments = some arguments → arguments.IsRepresentable

theorem keep_test : Keep TestDraft.shape.fields TestDraft.IsRepresentable := by
  refine .ignore (fun _ _ holds => holds) ?_
  refine .ignore (fun _ _ holds => holds) ?_
  refine .ignore (fun _ _ holds => holds) ?_
  refine .cons ensures_executor (fun draft value holds representable => ⟨?_, holds.2⟩) ?_
  · rintro executor ⟨⟩
    exact representable
  refine .cons ensures_arguments (fun draft value holds representable => ⟨holds.1, ?_⟩) ?_
  · rintro arguments ⟨⟩
    exact representable
  refine .ignore (fun _ _ holds => holds) ?_
  refine .ignore (fun _ _ holds => holds) ?_
  refine .ignore (fun _ _ holds => holds) ?_
  exact keep_nil _

theorem ensures_test : Ensures TestDraft.shape.read AtomicTest.IsRepresentable := by
  refine Ensures.record TestDraft.IsRepresentable keep_test ⟨nofun, nofun⟩ ?_
  intro draft test holds finished
  rcases bind_eq_ok finished with ⟨name, -, unnamed⟩
  rcases bind_eq_ok unnamed with ⟨executor, given, complete⟩
  cases complete
  refine ⟨holds.1 executor (require_eq_ok given), ?_⟩
  cases arguments : draft.arguments with
  | none => simp [Arguments.IsRepresentable, Arguments.names, Arguments.empty]
  | some present => simpa [arguments] using holds.2 present arguments

theorem ensures_technique : Ensures TechniqueDraft.shape.read Technique.IsRepresentable := by
  refine Ensures.record
    (fun draft => ∀ tests, draft.tests = some tests → ∀ test ∈ tests, test.IsRepresentable)
    ?_ nofun ?_
  · refine .ignore (fun _ _ holds => holds) ?_
    refine .ignore (fun _ _ holds => holds) ?_
    refine .ignore (fun _ _ holds => holds) ?_
    refine .cons ensures_test.list (fun draft value holds representable => ?_) (keep_nil _)
    rintro tests ⟨⟩
    exact representable
  · intro draft technique holds finished
    rcases bind_eq_ok finished with ⟨identifier, -, unnamed⟩
    rcases bind_eq_ok unnamed with ⟨name, -, complete⟩
    cases complete
    cases tests : draft.tests with
    | none => simp [Technique.IsRepresentable]
    | some present => simpa [tests, Technique.IsRepresentable] using holds present tests

/-- Every technique that is read from a text is one that a record can hold. -/
theorem isRepresentable_of_ofRecord
    {text : Text}
    {technique : Technique}
    (known : Technique.ofRecord text = .ok technique) :
    technique.IsRepresentable :=
  ensures_technique.all known

end TechniquePages
