import TechniquePages.Proofs.Page.PageLines

/-!
# Printable pages

The page of a printable technique is a front and one passage for each test.  No
passage opens a test but in its first line, and each of them makes its test again.
-/

namespace TechniquePages.Page

open Text (linesOf linesBack)

/-! ## Passages -/

/-- The passages of tests from a number on. -/
def writtenPassages (number : Nat) : List AtomicTest → List Passage
  | [] => []
  | test :: rest =>
    ⟨"## ".toList ++ testTitle number test.name, bodyLines test ++ leadingLines rest⟩ ::
      writtenPassages (number + 1) rest

theorem linesOf_textsBelow
    {test : AtomicTest}
    (printable : test.IsPrintable) :
    linesOf ((writeTest 1 test).drop 3) = bodyLines test := by
  have listed : '\n' ∉ platformsLine test := by
    unfold platformsLine
    rw [List.mem_append, not_or]
    exact ⟨by decide, (isLine_writeList printable.platforms).1⟩
  have shape : (writeTest 1 test).drop 3 =
      writeTestDescription test.description ++ [] :: platformsLine test :: [] ::
        (writeGuid test.guid ++ writeInputs test.arguments ++
          ExecutorBlock.write test.executor ++ [] ::
          (writeDependencies test ++ ["<br/>".toList])) := rfl
  rw [shape, Text.linesOf_append, Text.linesOf_cons_of_single (by simp),
    Text.linesOf_cons_of_single listed, Text.linesOf_cons_of_single (by simp)]
  simp only [Text.linesOf_append, bodyLines, openingLines, closingLines, List.append_assoc]
  rw [Text.linesOf_cons_of_single (by simp), Text.linesOf_append]
  rfl

/-- The lines of a printable test are read back as they are written. -/
theorem ownLines_eq_bodyLines
    {test : AtomicTest}
    (printable : test.IsPrintable) :
    test.ownLines = bodyLines test := by
  have unreturned := (isBlock_bodyLines printable (isFill_leadingLines [])).unreturned
  rw [leadingLines, List.append_nil] at unreturned
  rw [AtomicTest.ownLines, Text.linesBack_eq_linesOf, linesOf_textsBelow printable]
  rwa [linesOf_textsBelow printable]

theorem ownPassages_eq_writtenPassages
    {tests : List AtomicTest}
    (printable : ∀ test ∈ tests, test.IsPrintable)
    (number : Nat) :
    ownPassages number tests = writtenPassages number tests := by
  induction tests generalizing number with
  | nil => rfl
  | cons test rest hypothesis =>
    rcases List.forall_mem_cons.mp printable with ⟨own, others⟩
    rw [ownPassages, writtenPassages, ownLines_eq_bodyLines own, hypothesis others]

theorem isProper_writtenPassages
    {tests : List AtomicTest}
    (printable : ∀ test ∈ tests, test.IsPrintable)
    (number : Nat) :
    ∀ passage ∈ writtenPassages number tests, passage.IsProper := by
  induction tests generalizing number with
  | nil => simp [writtenPassages]
  | cons test rest hypothesis =>
    rcases List.forall_mem_cons.mp printable with ⟨own, others⟩
    have later := hypothesis others (number + 1)
    intro passage member
    rcases List.mem_cons.mp member with rfl | inRest
    · refine ⟨isTestHeading_testTitle number own.name own.named, ?_⟩
      exact (isBlock_bodyLines own (isFill_leadingLines rest)).free (by simp)
    · exact later passage inRest

/-- The sections of written passages make the tests. -/
theorem readTests_writtenPassages
    {tests : List AtomicTest}
    (printable : ∀ test ∈ tests, test.IsPrintable)
    (number line : Nat) :
    readTests (sectionsFrom line (writtenPassages number tests)) =
      .ok (tests.map AtomicTest.reread) := by
  induction tests generalizing number line with
  | nil => rfl
  | cons test rest hypothesis =>
    rcases List.forall_mem_cons.mp printable with ⟨own, others⟩
    have later := hypothesis others (number + 1)
    have named : Passage.name ⟨"## ".toList ++ testTitle number test.name,
        bodyLines test ++ leadingLines rest⟩ = test.name := by
      rw [Passage.name, (hasKind_testTitle number own.name own.named).classified]
      rfl
    rw [writtenPassages, sectionsFrom, named, readTests,
      Section.read_bodyLines own (isFill_leadingLines rest)]
    simp only [later]
    rfl

/-! ## Pages -/

variable {technique : Technique}

/-- All lines of a written page. -/
def pageLines (technique : Technique) : List Text :=
  frontLines technique ++ (writtenPassages 1 technique.tests).flatMap Passage.texts

/-- The page of a printable technique is read back as it is written. -/
theorem lines_write_of_isPrintable (printable : technique.IsPrintable) :
    (write technique).lines = pageLines technique := by
  have description : linesBack (writeDescription technique) =
      linesOf (writeDescription technique) := by
    refine Text.linesBack_eq_linesOf fun line member => unreturned_frontLines printable line ?_
    rw [frontLines]
    exact List.mem_cons_of_mem _ (List.mem_append_left _ member)
  rw [lines_write (isLine_titleLine printable.identifier printable.name printable.named)
      fun test member => (printable.tests test member).name,
    ownPassages_eq_writtenPassages printable.tests, pageLines, ownFront, description, frontLines]

end TechniquePages.Page
