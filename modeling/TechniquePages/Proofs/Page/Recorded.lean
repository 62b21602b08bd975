import TechniquePages.Proofs.Page.NormalForm
import TechniquePages.Proofs.Technique.RecordRoundTrip

/-!
# Records of pages

A technique that is read from a page has its own record.  The arguments of its
tests are keyed by different names, so the record can hold them.  The names of
its executors are printed in headings, and a heading may print any name between
its quotation marks: a blank one, which a record does not admit, or the name
that stands for manual tests, which makes a record of a command one of steps.

So the record is read back as the technique exactly when no executor heading
prints such a name.
-/

namespace TechniquePages

open Text (IsTrimmed isTrimmed_trim)

namespace Page

/-! ## Arguments -/

/-- The arguments of a section are keyed by different names. -/
theorem Section.isRepresentable_arguments (body : List Line) :
    (Section.arguments body).IsRepresentable :=
  fun _ => (Section.isNormal_arguments body).distinct

/-! ## Executors -/

/-- The printed name of an interpreter is kept but for blanks and the command prompt. -/
theorem ExecutorBlock.storedName_cases (printed : Text) :
    storedName printed = printed.trim ∨
      (storedName printed = "command_prompt".toList ∧
        printed.trim.map Char.toLower = "cmd".toList) := by
  rw [storedName]
  split
  · rename_i prompt
    exact Or.inr ⟨rfl, prompt⟩
  · exact Or.inl rfl

/-- A stored name is one for a command unless the printed one is blank or that for manual tests. -/
theorem ExecutorBlock.isRepresentable_storedName_iff
    (printed : Text)
    (cleanup : Option Text)
    (elevated : Bool)
    (procedure : Text) :
    (⟨.command (storedName printed) cleanup, elevated, procedure, .separate⟩ :
        Executor).IsRepresentable ↔
      printed.trim ≠ [] ∧ printed.trim ≠ Executor.manualName := by
  rcases storedName_cases printed with stored | ⟨stored, prompt⟩
  · simp only [Executor.IsRepresentable, stored]
    exact ⟨And.right, fun named => ⟨isTrimmed_trim printed, named⟩⟩
  · simp only [Executor.IsRepresentable, stored]
    have left : IsTrimmed "command_prompt".toList ∧ "command_prompt".toList ≠ [] ∧
        "command_prompt".toList ≠ Executor.manualName := by decide
    refine ⟨fun _ => ⟨?_, ?_⟩, fun _ => left⟩
    · intro empty
      rw [empty] at prompt
      exact absurd prompt (by decide)
    · intro manual
      rw [manual] at prompt
      exact absurd prompt (by decide)

/-- The first executor heading prints no name, or the name for manual tests, for a command. -/
def Section.IsMisnamed (part : Section) : Prop :=
  ∃ before heading after, part.body = before ++ heading :: after ∧
    (∀ line ∈ before, ¬ line.kind.IsExecutorHeading) ∧
      ∃ printed elevated, heading.kind = .commandHeading printed elevated ∧
        (printed.trim = [] ∨ printed.trim = Executor.manualName)

theorem Section.isMisnamed_iff (part : Section) :
    part.IsMisnamed ↔
      ∃ printed elevated rest, Line.afterFirst? ExecutorBlock.heading? part.body =
          some (.command printed elevated, rest) ∧
        (printed.trim = [] ∨ printed.trim = Executor.manualName) := by
  simp only [IsMisnamed, Line.afterFirst?_eq_some_iff, ExecutorBlock.heading?_eq_none_iff,
    ExecutorBlock.heading?_eq_command_iff]
  constructor
  · rintro ⟨before, heading, after, split, first, printed, elevated, kind, misnamed⟩
    exact ⟨printed, elevated, after, ⟨before, heading, split, first, kind⟩, misnamed⟩
  · rintro ⟨printed, elevated, after, ⟨before, heading, split, first, kind⟩, misnamed⟩
    exact ⟨before, heading, after, split, first, printed, elevated, kind, misnamed⟩

/-- An executor that is read can be recorded unless its section is misnamed. -/
theorem ExecutorBlock.isRepresentable_iff
    {part : Section}
    {executor : Executor}
    (known : ExecutorBlock.read part.name part.body = .ok executor) :
    executor.IsRepresentable ↔ ¬ part.IsMisnamed := by
  rw [Section.isMisnamed_iff]
  rcases ExecutorBlock.read_eq_ok known with
    ⟨elevated, rest, found, rfl⟩ | ⟨printed, elevated, rest, block, found, -, rfl⟩
  · simp [found, Executor.IsRepresentable]
  · rw [isRepresentable_storedName_iff, found]
    simp

/-! ## Tests -/

theorem Section.isRepresentable_iff
    {part : Section}
    {test : AtomicTest}
    (known : part.read = .ok test) :
    test.IsRepresentable ↔ ¬ part.IsMisnamed := by
  rcases Section.exists_executor_of_read known with ⟨executor, outcome, rfl⟩
  rw [← ExecutorBlock.isRepresentable_iff outcome]
  exact ⟨AtomicTest.IsRepresentable.executor,
    fun named => ⟨named, Section.isRepresentable_arguments part.body⟩⟩

/-- All tests can be recorded exactly when no section is misnamed. -/
theorem isRepresentable_readTests_iff
    {parts : List Section}
    {tests : List AtomicTest}
    (known : readTests parts = .ok tests) :
    (∀ test ∈ tests, test.IsRepresentable) ↔ ∀ part ∈ parts, ¬ part.IsMisnamed := by
  induction parts generalizing tests with
  | nil =>
    cases known
    simp
  | cons part rest hypothesis =>
    rw [readTests] at known
    cases first : part.read with
    | error fault => simp [first] at known
    | ok test =>
      cases later : readTests rest with
      | error fault => simp [first, later, Except.map] at known
      | ok others =>
        have whole : test :: others = tests := by simpa [first, later, Except.map] using known
        rw [← whole, List.forall_mem_cons, List.forall_mem_cons, hypothesis later,
          Section.isRepresentable_iff first]

/-- A technique of a page can be recorded exactly when no section is misnamed. -/
theorem isRepresentable_read_iff
    {page : Text}
    {technique : Technique}
    (known : read page = .ok technique) :
    technique.IsRepresentable ↔ ∀ part ∈ sections (scan page), ¬ part.IsMisnamed :=
  isRepresentable_readTests_iff (readTests_of_read known)

end Page

/--
The record of a page is read back as the same technique exactly when no section of
the page prints a blank name, or the name for manual tests, for the interpreter of
its command.
-/
theorem Format.json_reads_page_back_iff
    {page : Text}
    {technique : Technique}
    (known : Page.read page = .ok technique)
    (layout : RecordLayout) :
    (Format.json layout).write technique >>= (Format.json layout).read = .ok technique ↔
      ∀ part ∈ Page.sections (Page.scan page), ¬ part.IsMisnamed := by
  rw [← Page.isRepresentable_read_iff known]
  constructor
  · intro again
    change (Technique.ofRecord (technique.record layout)).mapError FormatFault.record = _ at again
    cases outcome : Technique.ofRecord (technique.record layout) with
    | error fault =>
      rw [outcome] at again
      cases again
    | ok value =>
      rw [outcome] at again
      have same : value = technique := Except.ok.inj again
      exact isRepresentable_of_ofRecord (same ▸ outcome)
  · intro representable
    change (Technique.ofRecord (technique.record layout)).mapError FormatFault.record = _
    rw [ofRecord_record layout representable]
    rfl

/-- A page whose executor heading prints a name, which may be any. -/
def namedPage (name : String) : Text :=
  "# T1059 - Shell\n## Atomic Test #1 - Named\n".toList ++
    "#### Attack Commands: Run with `".toList ++ name.toList ++ "`!\n```\nid\n```\n".toList

/-- The technique of such a page, given the name that is kept. -/
def namedTechnique (name : String) : Technique :=
  { Technique.bare "T1059".toList "Shell".toList with
    tests := [.bare "Named".toList (.command name.toList "id".toList)] }

/-- A command whose heading prints `manual` is read back from its record as steps. -/
theorem Format.json_reads_page_back_manual :
    Page.read (namedPage " manual ") = .ok (namedTechnique "manual") ∧
      ¬ ∀ part ∈ Page.sections (Page.scan (namedPage " manual ")), ¬ part.IsMisnamed := by
  have known : Page.read (namedPage " manual ") = .ok (namedTechnique "manual") := by
    decide +kernel
  refine ⟨known, fun named => ?_⟩
  have again := (json_reads_page_back_iff known .compact).mpr named
  have steps : (Format.json .compact).write (namedTechnique "manual") >>=
      (Format.json .compact).read =
        .ok { namedTechnique "manual" with
          tests := [.bare "Named".toList (.manual "id".toList)] } := by
    decide +kernel
  rw [again] at steps
  exact absurd steps (by decide)

/-- Not every record of a page is read back: one with a blank name is refused. -/
theorem Format.not_forall_json_reads_page_back :
    ¬ ∀ (page : Text) (technique : Technique) (layout : RecordLayout),
      Page.read page = .ok technique →
        (Format.json layout).write technique >>= (Format.json layout).read = .ok technique := by
  intro every
  have known : Page.read (namedPage " ") = .ok (namedTechnique "") := by decide +kernel
  have refused : (Format.json .compact).write (namedTechnique "") >>= (Format.json .compact).read =
      .error (.record .unnamedExecutor) := by decide +kernel
  rw [every _ _ .compact known] at refused
  cases refused

end TechniquePages
