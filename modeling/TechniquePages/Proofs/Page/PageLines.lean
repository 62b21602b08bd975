import TechniquePages.Proofs.Page.WrittenFront

/-!
# The lines of a written page

A page is written text by text, and a text may have many lines.  Only the title
and the names of the tests have to stand on one line each.  Then the page that is
read back is a front and, for each test, its heading, the lines of its other texts
by themselves, and the line break that leads on to the next test.

The end of a page is trimmed.  That takes off nothing but the blank end of an
index without tests.
-/

namespace TechniquePages

open Page
open Text (IsLine linesBack)

/-- The lines of a test below its heading, as they are read back. -/
def AtomicTest.ownLines (test : AtomicTest) : List Text :=
  linesBack ((writeTest 1 test).drop 3)

namespace Page

variable {technique : Technique}

/-! ## The end of a page -/

theorem exists_writeTests_eq_append
    (number : Nat)
    {tests : List AtomicTest}
    (nonempty : tests ≠ []) :
    ∃ before, writeTests number tests = before ++ ["<br/>".toList] := by
  induction tests generalizing number with
  | nil => exact absurd rfl nonempty
  | cons test rest hypothesis =>
    cases rest with
    | nil =>
      refine ⟨(writeTest number test).dropLast, ?_⟩
      rw [writeTests, writeTests, List.append_nil]
      have last : (writeTest number test).getLast? = some "<br/>".toList := by
        simp [writeTest, List.getLast?_append, List.getLast?_cons]
      exact (List.dropLast_append_getLast? _ last).symm
    | cons next more =>
      rcases hypothesis (number + 1) (by simp) with ⟨before, split⟩
      exact ⟨writeTest number test ++ before, by rw [writeTests, split, List.append_assoc]⟩

/-- Joined lines whose last one has a solid end keep their end. -/
theorem trimEnd_joinLines
    {before : List Text}
    {last : Text}
    (nonempty : before ≠ [])
    {character : Char}
    (ends : last.getLast? = some character)
    (solid : Unicode.isBlank character = false) :
    Text.trimEnd (Text.joinLines (before ++ [last])) = Text.joinLines (before ++ [last]) := by
  rw [Text.joinLines_append nonempty (by simp)]
  have shape : Text.joinLines before ++ '\n' :: Text.joinLines [last] =
      (Text.joinLines before ++ ['\n']) ++ last := by
    simp [Text.joinLines]
  rw [shape]
  exact Text.trimEnd_append_of_getLast? _ _ ends solid

theorem writeLines_eq (technique : Technique) :
    writeLines technique = titleLine technique ::
      (writeDescription technique ++ [] :: "## Atomic Tests".toList :: [] ::
        (writeIndex 1 technique.tests ++ [] :: writeTests 1 technique.tests)) := rfl

/-- The index and the tests; without tests, only the heading is left when the end is trimmed. -/
def testTexts (technique : Technique) : List Text :=
  [] :: "## Atomic Tests".toList ::
    match technique.tests with
    | [] => []
    | tests => [] :: (writeIndex 1 tests ++ [] :: writeTests 1 tests)

theorem testTexts_of_no_tests (empty : technique.tests = []) :
    testTexts technique = [[], "## Atomic Tests".toList] := by
  rw [testTexts, empty]

theorem testTexts_of_tests (nonempty : technique.tests ≠ []) :
    testTexts technique = [] :: "## Atomic Tests".toList :: [] ::
      (writeIndex 1 technique.tests ++ [] :: writeTests 1 technique.tests) := by
  cases known : technique.tests with
  | nil => exact absurd known nonempty
  | cons test rest => rw [testTexts, known]

/-- The texts of a page that are left when its end is trimmed. -/
def writtenTexts (technique : Technique) : List Text :=
  titleLine technique :: (writeDescription technique ++ testTexts technique)

theorem writtenTexts_ne_nil (technique : Technique) : writtenTexts technique ≠ [] := by
  simp [writtenTexts]

/-- A page without tests is trimmed: its index is empty, and nothing follows its heading. -/
theorem write_eq_of_no_tests (empty : technique.tests = []) :
    write technique = Text.joinLines (writtenTexts technique) ++ ['\n'] := by
  have left : writtenTexts technique =
      (titleLine technique :: (writeDescription technique ++ [[]])) ++
        ["## Atomic Tests".toList] := by
    simp [writtenTexts, testTexts_of_no_tests empty]
  have split : writeLines technique = writtenTexts technique ++ [[], []] := by
    rw [writeLines_eq, left, empty]
    simp [writeIndex, writeTests]
  have solid := @trimEnd_joinLines (titleLine technique :: (writeDescription technique ++ [[]]))
    "## Atomic Tests".toList (by simp) 's' rfl (by decide)
  rw [← left] at solid
  have blank : Unicode.isBlank '\n' = true := by decide
  have ends : Text.joinLines (writeLines technique) =
      (Text.joinLines (writtenTexts technique) ++ ['\n']) ++ ['\n'] := by
    rw [split, Text.joinLines_append (writtenTexts_ne_nil technique) (by simp)]
    simp [Text.joinLines, Text.joinWith]
  rw [write, ends, Text.trimEnd_append_of_blank _ blank, Text.trimEnd_append_of_blank _ blank,
    solid]

/-- A page with tests ends in a line break, so nothing is trimmed. -/
theorem write_eq_of_tests (nonempty : technique.tests ≠ []) :
    write technique = Text.joinLines (writtenTexts technique) ++ ['\n'] := by
  have same : writtenTexts technique = writeLines technique := by
    rw [writeLines_eq, writtenTexts, testTexts_of_tests nonempty]
  rcases exists_writeTests_eq_append 1 nonempty with ⟨before, ends⟩
  have split : writeLines technique =
      (titleLine technique :: (writeDescription technique ++ [] :: "## Atomic Tests".toList ::
        [] :: (writeIndex 1 technique.tests ++ [] :: before))) ++ ["<br/>".toList] := by
    rw [writeLines_eq, ends]
    simp
  have solid := @trimEnd_joinLines
    (titleLine technique :: (writeDescription technique ++ [] :: "## Atomic Tests".toList ::
        [] :: (writeIndex 1 technique.tests ++ [] :: before))) "<br/>".toList
    (by simp) '>' rfl (by decide)
  rw [← split] at solid
  rw [write, solid, same]

/-- A page is its texts, each on lines of its own. -/
theorem write_eq_joinLines (technique : Technique) :
    write technique = Text.joinLines (writtenTexts technique) ++ ['\n'] := by
  by_cases empty : technique.tests = []
  · exact write_eq_of_no_tests empty
  · exact write_eq_of_tests empty

/-! ## Tests -/

/-- The passages that tests make when their page is read back. -/
def ownPassages (number : Nat) : List AtomicTest → List Passage
  | [] => []
  | test :: rest =>
    ⟨"## ".toList ++ testTitle number test.name, test.ownLines ++ leadingLines rest⟩ ::
      ownPassages (number + 1) rest

theorem unreturned_testTitle
    (number : Nat)
    {name : Text}
    (line : IsLine name) :
    ("## ".toList ++ testTitle number name).getLast? ≠ some '\r' := by
  rw [testTitle_eq, ← List.append_assoc, ← List.append_assoc]
  refine Text.getLast?_append_ne ?_ line.trimmed.unreturned
  rw [← List.append_assoc, List.getLast?_append]
  simp

theorem linesBack_writeTest
    (number : Nat)
    {test : AtomicTest}
    (line : IsLine test.name) :
    linesBack (writeTest number test) =
      "<br/>".toList :: [] :: ("## ".toList ++ testTitle number test.name) :: test.ownLines := by
  have shape : writeTest number test = "<br/>".toList :: [] ::
      ("## ".toList ++ testTitle number test.name) :: (writeTest 1 test).drop 3 := rfl
  have heading : '\n' ∉ "## ".toList ++ testTitle number test.name := by
    rw [List.mem_append, not_or]
    exact ⟨by decide, newline_not_mem_testTitle number line⟩
  rw [shape, Text.linesBack_cons_of_single (by decide) (by decide),
    Text.linesBack_cons_of_single (by simp) (by simp),
    Text.linesBack_cons_of_single heading (unreturned_testTitle number line)]
  rfl

/-- The lines of tests are their passages, once the first line breaks are taken off. -/
theorem linesBack_writeTests
    {tests : List AtomicTest}
    (lines : ∀ test ∈ tests, IsLine test.name)
    (number : Nat) :
    linesBack (writeTests number tests) =
      leadingLines tests ++ (ownPassages number tests).flatMap Passage.texts := by
  induction tests generalizing number with
  | nil => rfl
  | cons test rest hypothesis =>
    rcases List.forall_mem_cons.mp lines with ⟨own, others⟩
    rw [writeTests, Text.linesBack_append, linesBack_writeTest number own, hypothesis others,
      ownPassages, List.flatMap_cons]
    simp [leadingLines, Passage.texts]

/-! ## The whole page -/

/-- The lines before the first test, as they are read back. -/
def ownFront (technique : Technique) : List Text :=
  titleLine technique :: (linesBack (writeDescription technique) ++ indexLines technique)

theorem linesBack_writeIndex
    {tests : List AtomicTest}
    (lines : ∀ test ∈ tests, IsLine test.name)
    (number : Nat) :
    linesBack (writeIndex number tests) = writeIndex number tests := by
  have single := linesOf_writeIndex lines number
  rw [Text.linesBack_eq_linesOf, single]
  rw [single]
  exact (isBlock_writeIndex number tests : IsBlock [] _).unreturned

theorem linesBack_testTexts (lines : ∀ test ∈ technique.tests, IsLine test.name) :
    linesBack (testTexts technique) =
      indexLines technique ++ (ownPassages 1 technique.tests).flatMap Passage.texts := by
  have entries := linesBack_writeIndex lines 1
  have tests := linesBack_writeTests lines 1
  cases written : technique.tests with
  | nil =>
    rw [testTexts_of_no_tests written, indexLines, written]
    rfl
  | cons test rest =>
    rw [written] at entries tests
    rw [testTexts_of_tests (by simp [written]), indexLines, written,
      Text.linesBack_cons_of_single (by simp) (by simp),
      Text.linesBack_cons_of_single (by decide) (by decide),
      Text.linesBack_cons_of_single (by simp) (by simp), Text.linesBack_append, entries,
      Text.linesBack_cons_of_single (by simp) (by simp), tests]
    simp

/-- The title of a technique stands on one line. -/
theorem isLine_titleLine
    (identifier : IsIdentifier technique.identifier)
    (line : IsLine technique.name)
    (named : technique.name ≠ []) :
    IsLine (titleLine technique) := by
  refine ⟨(Text.isTrimmed_iff _).mpr ⟨?_, ?_⟩, ?_⟩
  · intro character first
    have hash : '#' = character := by simpa [titleLine] using first
    exact hash ▸ (by decide)
  · intro character last
    rw [titleLine, List.getLast?_append_of_ne_nil _ named] at last
    exact ((Text.isTrimmed_iff _).mp line.trimmed).2 character last
  · unfold titleLine
    simp only [List.mem_append, not_or]
    exact ⟨⟨⟨by decide, newline_not_mem_identifier identifier⟩, by decide⟩, line.single⟩

/-- A page whose title and names stand on one line each is read back line by line. -/
theorem lines_write
    (title : IsLine (titleLine technique))
    (lines : ∀ test ∈ technique.tests, IsLine test.name) :
    (write technique).lines =
      ownFront technique ++ (ownPassages 1 technique.tests).flatMap Passage.texts := by
  rw [write_eq_joinLines, Text.lines_joinLines_eq_linesBack (writtenTexts_ne_nil technique),
    writtenTexts, Text.linesBack_cons_of_single title.single title.trimmed.unreturned,
    Text.linesBack_append, linesBack_testTexts lines, ownFront]
  simp

end Page

end TechniquePages
