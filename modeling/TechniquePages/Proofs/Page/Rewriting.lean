import TechniquePages.Proofs.Page.PageLines
import TechniquePages.Proofs.Page.ReadShape
import TechniquePages.Proofs.Page.Independence

/-!
# Rewriting a page

A technique that was read from a page is written again and that page is read.  The
tests on it are those of the technique under two conditions on headings and one on
each test by itself.  Every test has a name, or its heading is none.  No line of
the other texts opens a test.  And the section that a test makes of its own lines,
without those of other tests, is not a bad one.

The headings on a page are counted: there is one for each test with a name and one
for each other line that opens a test.  So either condition on headings follows
from the other where the tests are kept.
-/

namespace TechniquePages

open Page
open Text (IsLine linesBack)

/-- The section that a test makes of its own lines on a written page. -/
def AtomicTest.ownSection (test : AtomicTest) : Section :=
  ⟨test.name, scanFrom 1 none test.ownLines⟩

namespace Technique

/-- The page of the technique is read again, and its tests have their names in their order. -/
def KeepsTests (technique : Technique) : Prop :=
  ∃ again, read (write technique) = .ok again ∧
    again.tests.map AtomicTest.name = technique.tests.map AtomicTest.name

/-- Every test has a name. -/
def IsNamed (technique : Technique) : Prop :=
  ∀ test ∈ technique.tests, test.name ≠ []

/-- On the page of the technique only the headings of tests open tests. -/
structure OpensNoOther (technique : Technique) : Prop where
  description : ∀ text ∈ technique.description, ∀ line ∈ text.trim.lines,
    isTestHeading line = false
  tests : ∀ test ∈ technique.tests, ∀ line ∈ test.ownLines, isTestHeading line = false

end Technique

namespace Page

/-! ## Sections with more lines -/

namespace Section

section Prose

variable (name : Text) (body : List Line) {fill : List Line}

theorem isClosed_append_iff (prose : ∀ line ∈ fill, line.kind = .prose) :
    IsClosed ⟨name, body ++ fill⟩ ↔ IsClosed ⟨name, body⟩ := by
  constructor
  · exact fun known line member => known line (List.mem_append_left _ member)
  · intro known line member
    rcases List.mem_append.mp member with inBody | inFill
    · exact known line inBody
    · rw [prose line inFill]
      rfl

theorem not_isExecutorHeading_of_prose
    (prose : ∀ line ∈ fill, line.kind = .prose)
    {line : Line}
    (member : line ∈ fill) :
    ¬ line.kind.IsExecutorHeading := by
  rw [prose line member]
  simp [LineKind.IsExecutorHeading]

theorem hasExecutor_append_iff (prose : ∀ line ∈ fill, line.kind = .prose) :
    HasExecutor ⟨name, body ++ fill⟩ ↔ HasExecutor ⟨name, body⟩ := by
  constructor
  · rintro ⟨line, member, heading⟩
    rcases List.mem_append.mp member with inBody | inFill
    · exact ⟨line, inBody, heading⟩
    · exact absurd heading (not_isExecutorHeading_of_prose prose inFill)
  · rintro ⟨line, member, heading⟩
    exact ⟨line, List.mem_append_left _ member, heading⟩

theorem lacksCommand_append_iff (prose : ∀ line ∈ fill, line.kind = .prose) :
    LacksCommand ⟨name, body ++ fill⟩ ↔ LacksCommand ⟨name, body⟩ := by
  constructor
  · rintro ⟨before, heading, after, split, first, asks, absent⟩
    have inBody : heading ∉ fill := fun inFill =>
      not_isExecutorHeading_of_prose prose inFill (Or.inr asks)
    rcases List.append_eq_append_iff.mp split with ⟨middle, -, back⟩ | ⟨middle, front, back⟩
    · exact absurd (by simp [back]) inBody
    · cases middle with
      | nil => exact absurd (by simp [← show heading :: after = fill from back]) inBody
      | cons same more =>
        rw [List.cons_append, List.cons.injEq] at back
        rcases back with ⟨rfl, rfl⟩
        exact ⟨before, heading, more, front, first, asks,
          fun line member => absent line (List.mem_append_left _ member)⟩
  · rintro ⟨before, heading, after, split, first, asks, absent⟩
    refine ⟨before, heading, after ++ fill, ?_, first, asks, fun line member => ?_⟩
    · change body ++ fill = _
      rw [show body = before ++ heading :: after from split, List.append_assoc, List.cons_append]
    · rcases List.mem_append.mp member with inAfter | inFill
      · exact absent line inAfter
      · rw [prose line inFill]
        simp [LineKind.IsBlockStart]

/-- Lines that say nothing of fences and executors make no section bad, and mend none. -/
theorem isBad_append_iff (prose : ∀ line ∈ fill, line.kind = .prose) :
    IsBad ⟨name, body ++ fill⟩ ↔ IsBad ⟨name, body⟩ := by
  rw [IsBad, IsBad, isClosed_append_iff name body prose, hasExecutor_append_iff name body prose,
    lacksCommand_append_iff name body prose]

end Prose

end Section

/-- On the page a test is read if and only if its own section is not bad. -/
theorem exists_read_ownLines_iff
    (test : AtomicTest)
    (rest : List AtomicTest)
    (number : Nat) :
    (∃ made, Section.read
        ⟨test.name, scanFrom (1 + number) none (test.ownLines ++ leadingLines rest)⟩ = .ok made) ↔
      ¬ test.ownSection.IsBad := by
  have endless : codeLength? (leadingLines rest) = none := by
    cases rest <;> rfl
  have prose : ∀ line ∈ scanFrom (1 + test.ownLines.length) none (leadingLines rest),
      line.kind = .prose := fun line member =>
    ((isFill_leadingLines rest).scanned _ line member).1
  have first : (∃ made, Section.read
        ⟨test.name, scanFrom (1 + number) none (test.ownLines ++ leadingLines rest)⟩ = .ok made) ↔
      ∃ made, Section.read
        ⟨test.name, scanFrom 1 none (test.ownLines ++ leadingLines rest)⟩ = .ok made := by
    rw [scanFrom_add, Section.read_renumber]
    cases Section.read ⟨test.name, scanFrom 1 none (test.ownLines ++ leadingLines rest)⟩ with
    | error fault =>
      constructor
      · rintro ⟨made, ⟨⟩⟩
      · rintro ⟨made, ⟨⟩⟩
    | ok made => exact ⟨fun _ => ⟨made, rfl⟩, fun _ => ⟨made, rfl⟩⟩
  rw [first, Section.exists_read_eq_ok_iff rfl, scanFrom_append_of_endless 1 _ endless,
    Section.isBad_append_iff _ _ prose]
  rfl

/-! ## Headings, counted -/

theorem countP_leadingLines (tests : List AtomicTest) :
    (leadingLines tests).countP isTestHeading = 0 := by
  cases tests <;> rfl

/-- The tests on a page have one heading for each name, and what else opens tests there. -/
theorem countP_ownPassages
    {tests : List AtomicTest}
    (lines : ∀ test ∈ tests, IsLine test.name)
    (number : Nat) :
    ((ownPassages number tests).flatMap Passage.texts).countP isTestHeading =
      tests.countP (fun test => test.name ≠ []) +
        (tests.flatMap AtomicTest.ownLines).countP isTestHeading := by
  induction tests generalizing number with
  | nil => rfl
  | cons test rest hypothesis =>
    rcases List.forall_mem_cons.mp lines with ⟨own, others⟩
    have heading : isTestHeading ("## ".toList ++ testTitle number test.name) =
        decide (test.name ≠ []) :=
      Bool.eq_iff_iff.mpr ((isTestHeading_testTitle_iff number own).trans decide_eq_true_iff.symm)
    rw [ownPassages, List.flatMap_cons, List.countP_append, hypothesis others, List.flatMap_cons,
      List.countP_append, Passage.texts, List.countP_cons, List.countP_append,
      countP_leadingLines, List.countP_cons, heading]
    omega

variable {technique : Technique}

/-- What opens a test in the front of a page stands in the quoted description. -/
theorem countP_ownFront (shape : technique.IsRead) :
    (ownFront technique).countP isTestHeading =
      (technique.description.toList.flatMap fun text => text.trim.lines).countP isTestHeading := by
  have title : isTestHeading (titleLine technique) = false :=
    (hasKind_title shape.identifier shape.name shape.named).free rfl
  have index : (indexLines technique).countP isTestHeading = 0 := by
    rw [List.countP_eq_zero]
    simpa using (isBlock_indexLines [] technique).free (by simp)
  have heading : isTestHeading (descriptionLine technique) = false :=
    (hasKind_descriptionLine technique).free rfl
  have quoted : (linesBack (writeDescription technique)).countP isTestHeading =
      (technique.description.toList.flatMap fun text => text.trim.lines).countP isTestHeading := by
    cases described : technique.description with
    | none =>
      rw [writeDescription, described]
      rfl
    | some text =>
      by_cases blank : text.trim = []
      · rw [writeDescription, described]
        simp [blank]
      · have blankLine : isTestHeading [] = false := rfl
        have opening : isTestHeading "<blockquote>".toList = false := rfl
        have closing : isTestHeading "</blockquote>".toList = false := rfl
        rw [linesBack_writeDescription shape.identifier described blank]
        simp only [List.countP_cons, List.countP_append, heading, blankLine, opening, closing,
          List.countP_nil]
        simp
  rw [ownFront, List.countP_cons, List.countP_append, title, index, quoted]
  rfl

/-! ## Tests, kept -/

theorem name_ownPassage
    (number : Nat)
    {test : AtomicTest}
    (line : IsLine test.name)
    (named : test.name ≠ [])
    (rest : List AtomicTest) :
    Passage.name ⟨"## ".toList ++ testTitle number test.name, test.ownLines ++ leadingLines rest⟩ =
      test.name := by
  rw [Passage.name, (hasKind_testTitle number line named).classified]
  rfl

theorem isProper_ownPassages
    {tests : List AtomicTest}
    (lines : ∀ test ∈ tests, IsLine test.name)
    (named : ∀ test ∈ tests, test.name ≠ [])
    (free : ∀ test ∈ tests, ∀ line ∈ test.ownLines, isTestHeading line = false)
    (number : Nat) :
    ∀ passage ∈ ownPassages number tests, passage.IsProper := by
  induction tests generalizing number with
  | nil => simp [ownPassages]
  | cons test rest hypothesis =>
    simp only [List.forall_mem_cons] at lines named free
    refine List.forall_mem_cons.mpr ⟨⟨?_, ?_⟩, hypothesis lines.2 named.2 free.2 (number + 1)⟩
    · exact (isTestHeading_testTitle_iff number lines.1).mpr named.1
    · intro line member
      rcases List.mem_append.mp member with own | leading
      · exact free.1 line own
      · have none := countP_leadingLines rest
        rw [List.countP_eq_zero] at none
        simpa using none line leading

theorem map_name_sectionsFrom
    {tests : List AtomicTest}
    (lines : ∀ test ∈ tests, IsLine test.name)
    (named : ∀ test ∈ tests, test.name ≠ [])
    (number line : Nat) :
    (sectionsFrom line (ownPassages number tests)).map Section.name =
      tests.map AtomicTest.name := by
  induction tests generalizing number line with
  | nil => rfl
  | cons test rest hypothesis =>
    simp only [List.forall_mem_cons] at lines named
    rw [ownPassages, sectionsFrom, name_ownPassage number lines.1 named.1, List.map_cons,
      hypothesis lines.2 named.2, List.map_cons]

/-- The tests of written passages are read if and only if none of their sections is bad. -/
theorem exists_readTests_ownPassages_iff
    {tests : List AtomicTest}
    (lines : ∀ test ∈ tests, IsLine test.name)
    (named : ∀ test ∈ tests, test.name ≠ [])
    (number line : Nat) :
    (∃ made, readTests (sectionsFrom (1 + line) (ownPassages number tests)) = .ok made) ↔
      ∀ test ∈ tests, ¬ test.ownSection.IsBad := by
  rw [exists_readTests_eq_ok_iff]
  induction tests generalizing number line with
  | nil => simp [ownPassages, sectionsFrom]
  | cons test rest hypothesis =>
    simp only [List.forall_mem_cons] at lines named
    have later := hypothesis lines.2 named.2 (number + 1)
    rw [ownPassages, sectionsFrom, name_ownPassage number lines.1 named.1, List.forall_mem_cons,
      List.forall_mem_cons, Nat.add_assoc 1 line 1, exists_read_ownLines_iff, Nat.add_assoc 1,
      later]

theorem map_name_of_readTests
    {parts : List Section}
    {tests : List AtomicTest}
    (known : readTests parts = .ok tests) :
    tests.map AtomicTest.name = parts.map Section.name := by
  rcases readTests_eq_ok known with ⟨length, each⟩
  refine List.ext_getElem? fun index => ?_
  rw [List.getElem?_map, List.getElem?_map]
  cases found : parts[index]? with
  | none =>
    rw [List.getElem?_eq_none_iff.mpr (length ▸ List.getElem?_eq_none_iff.mp found)]
    rfl
  | some part =>
    rcases each index part found with ⟨test, atIndex, ofPart⟩
    rcases Section.exists_executor_of_read ofPart with ⟨executor, -, rfl⟩
    rw [atIndex]
    rfl

end Page

namespace Technique

variable {technique : Technique}

theorem isNamed_iff (technique : Technique) :
    technique.IsNamed ↔
      technique.tests.countP (fun test => test.name ≠ []) = technique.tests.length := by
  simp [List.countP_eq_length, IsNamed]

theorem opensNoOther_iff (shape : technique.IsRead) :
    technique.OpensNoOther ↔ (ownFront technique).countP isTestHeading = 0 ∧
      (technique.tests.flatMap AtomicTest.ownLines).countP isTestHeading = 0 := by
  rw [countP_ownFront shape, List.countP_eq_zero, List.countP_eq_zero]
  simp only [List.mem_flatMap, forall_exists_index, and_imp, Bool.not_eq_true]
  constructor
  · intro free
    refine ⟨fun line text member => ?_, fun line test member => ?_⟩
    · exact free.description text (by simpa using member) line
    · exact free.tests test member line
  · rintro ⟨description, tests⟩
    refine ⟨fun text member line => ?_, fun test member line => ?_⟩
    · exact description line text (by simpa using member)
    · exact tests line test member

theorem lines_names (shape : technique.IsRead) : ∀ test ∈ technique.tests, IsLine test.name :=
  fun test member => (shape.tests test member).name

theorem lines_write (shape : technique.IsRead) :
    (write technique).lines =
      ownFront technique ++ (ownPassages 1 technique.tests).flatMap Passage.texts :=
  Page.lines_write (isLine_titleLine shape.identifier shape.name shape.named) (lines_names shape)

/-- The page of a technique has as many sections as named tests and other headings of tests. -/
theorem length_sections_write (shape : technique.IsRead) :
    (sections (scan (write technique))).length =
      (ownFront technique).countP isTestHeading +
        (technique.tests.countP (fun test => test.name ≠ []) +
          (technique.tests.flatMap AtomicTest.ownLines).countP isTestHeading) := by
  rw [scan, length_sections_scanFrom, lines_write shape, List.countP_append,
    countP_ownPassages (lines_names shape)]

/-- Where only the headings of tests open tests, they divide the page. -/
theorem sections_write
    (shape : technique.IsRead)
    (named : technique.IsNamed)
    (free : technique.OpensNoOther) :
    sections (scan (write technique)) =
      sectionsFrom (1 + (ownFront technique).length) (ownPassages 1 technique.tests) := by
  have front : ∀ text ∈ ownFront technique, isTestHeading text = false := by
    have none := ((opensNoOther_iff shape).mp free).1
    rw [List.countP_eq_zero] at none
    simpa using none
  have proper := isProper_ownPassages (lines_names shape) named free.tests 1
  have parts := divide_scanFrom 1 front proper
  rw [← lines_write shape] at parts
  exact congrArg Prod.snd parts

/-- The page of a technique has a title, so only a section can make it unreadable. -/
theorem exists_read_write_eq (shape : technique.IsRead) :
    ∃ identifier name, read (write technique) =
      (readTests (sections (scan (write technique)))).map fun tests =>
        ⟨identifier, name, techniqueDescription? (preamble (scan (write technique))), tests⟩ := by
  apply exists_read_eq
  refine ⟨⟨1, titleLine technique, .title technique.identifier technique.name⟩, ?_, rfl⟩
  have title : HasKind (titleLine technique) (.title technique.identifier technique.name) :=
    hasKind_title shape.identifier shape.name shape.named
  rw [scan, lines_write shape, ownFront, List.cons_append, title.scanFrom_cons]
  exact List.mem_cons_self ..

/-- Named tests whose headings alone open tests are kept unless one of their sections is bad. -/
theorem keepsTests_iff_of_isNamed
    (shape : technique.IsRead)
    (named : technique.IsNamed)
    (free : technique.OpensNoOther) :
    technique.KeepsTests ↔ ∀ test ∈ technique.tests, ¬ test.ownSection.IsBad := by
  have lines := lines_names shape
  rcases exists_read_write_eq shape with ⟨identifier, name, whole⟩
  rw [sections_write shape named free] at whole
  rw [← exists_readTests_ownPassages_iff lines named 1 (ownFront technique).length]
  constructor
  · rintro ⟨again, known, -⟩
    rw [whole] at known
    cases outcome : readTests
        (sectionsFrom (1 + (ownFront technique).length) (ownPassages 1 technique.tests)) with
    | error fault => simp [outcome, Except.map] at known
    | ok made => exact ⟨made, rfl⟩
  · rintro ⟨made, known⟩
    rw [known] at whole
    refine ⟨_, whole, ?_⟩
    rw [map_name_of_readTests known, map_name_sectionsFrom lines named]

/--
Where the tests all have names, or nothing else opens tests, they are kept exactly
when both is so and no test makes a bad section of its own lines.
-/
theorem keepsTests_iff
    (shape : technique.IsRead)
    (either : technique.IsNamed ∨ technique.OpensNoOther) :
    technique.KeepsTests ↔
      technique.IsNamed ∧ technique.OpensNoOther ∧
        ∀ test ∈ technique.tests, ¬ test.ownSection.IsBad := by
  constructor
  · intro kept
    have both : technique.IsNamed ∧ technique.OpensNoOther := by
      rcases kept with ⟨again, known, names⟩
      have length : (sections (scan (write technique))).length = technique.tests.length := by
        rw [← (readTests_eq_ok (readTests_of_read known)).1]
        simpa using congrArg List.length names
      have atMost := technique.tests.countP_le_length (p := fun test => test.name ≠ [])
      rw [length_sections_write shape] at length
      rw [isNamed_iff, opensNoOther_iff shape] at either ⊢
      omega
    exact ⟨both.1, both.2, (keepsTests_iff_of_isNamed shape both.1 both.2).mp kept⟩
  · rintro ⟨named, free, good⟩
    exact (keepsTests_iff_of_isNamed shape named free).mpr good

end Technique

end TechniquePages
