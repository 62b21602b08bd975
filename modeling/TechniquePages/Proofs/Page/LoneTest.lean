import TechniquePages.Proofs.Page.PlainTests
import TechniquePages.Proofs.Page.ShellText

/-!
# Pages of one test

A page of one test is read if and only if the section of that test's own lines is, and
what this section makes is the only test that comes back.

The lines above the executor do not depend on what stands below them.  So a printable
test may be given another executor and other dependencies: its page still has a title,
one test heading and the same lines above the executor.
-/

namespace TechniquePages

open Page
open Text (IsLine linesOf linesBack)

/-- The test with another executor and other dependencies. -/
def AtomicTest.recast
    (executor : Executor)
    (dependencies : List Dependency)
    (dependencyExecutor : Option Text)
    (test : AtomicTest) : AtomicTest :=
  { test with
    executor := executor
    dependencies := dependencies
    dependencyExecutor := dependencyExecutor }

/-- The technique with one test. -/
def Technique.withTest
    (technique : Technique)
    (test : AtomicTest) : Technique :=
  { technique with tests := [test] }

namespace Page

variable {technique : Technique} {test : AtomicTest}

/-- The only test on a page is what the section of its own lines makes. -/
theorem exists_read_write_withTest
    (shape : (technique.withTest test).IsRead)
    (named : test.name ≠ [])
    (free : (technique.withTest test).OpensNoOther) :
    ∃ (number : Nat) (around : AtomicTest → Technique),
      (∀ made, (around made).tests = [made]) ∧
        number + test.ownLines.length =
          (write (technique.withTest test)).lines.length + 1 ∧
        read (write (technique.withTest test)) =
          (Section.read ⟨test.name, scanFrom number none test.ownLines⟩).map around := by
  have lone : (technique.withTest test).tests = [test] := rfl
  have line : IsLine test.name := (shape.tests test (by simp [lone])).name
  have all : (technique.withTest test).IsNamed := by
    intro other member
    rw [lone, List.mem_singleton] at member
    rwa [member]
  rcases Technique.exists_read_write_eq shape with ⟨identifier, name, whole⟩
  refine ⟨1 + (ownFront (technique.withTest test)).length + 1, fun made => ⟨identifier, name,
    techniqueDescription? (preamble (scan (write (technique.withTest test)))), [made]⟩,
    fun made => rfl, ?_, ?_⟩
  · rw [Technique.lines_write shape, lone]
    simp only [ownPassages, List.flatMap_cons, List.flatMap_nil, Passage.texts, leadingLines,
      List.append_nil, List.length_append, List.length_cons]
    omega
  · rw [whole, Technique.sections_write shape all free, lone, ownPassages, sectionsFrom,
      name_ownPassage 1 line named, readTests]
    simp only [leadingLines, List.append_nil, ownPassages, sectionsFrom, readTests]
    cases Section.read
      ⟨test.name, scanFrom (1 + (ownFront (technique.withTest test)).length + 1) none
        test.ownLines⟩ <;> rfl

/-! ## Recast tests -/

/-- A printable test may be recast to anything that opens no test. -/
theorem exists_read_write_recast
    (printable : (technique.withTest test).IsPrintable)
    {executor : Executor}
    {dependencies : List Dependency}
    {dependencyExecutor : Option Text}
    {changed : AtomicTest}
    (recast : changed = test.recast executor dependencies dependencyExecutor)
    (free : ∀ line ∈ changed.ownLines, isTestHeading line = false) :
    ∃ (number : Nat) (around : AtomicTest → Technique),
      (∀ made, (around made).tests = [made]) ∧
        number + changed.ownLines.length =
          (write (technique.withTest changed)).lines.length + 1 ∧
        read (write (technique.withTest changed)) =
          (Section.read ⟨test.name, scanFrom number none changed.ownLines⟩).map around := by
  have own : test.IsPrintable := printable.tests test (List.mem_singleton_self test)
  have shape : (technique.withTest changed).IsRead := {
    identifier := printable.identifier
    name := printable.name
    named := printable.named
    tests := by
      intro other member
      rw [List.mem_singleton.mp member, recast]
      exact ⟨own.name, (isLine_writeList own.platforms).1, own.guid⟩ }
  have none : (technique.withTest changed).OpensNoOther := by
    constructor
    · intro text described line member
      have quotation := printable.description text described
      exact quotation.free line (by rwa [quotation.trimmed.trim_eq] at member)
    · intro other member
      rwa [List.mem_singleton.mp member]
  have name : changed.name = test.name := by
    rw [recast]
    rfl
  rw [← name]
  exact exists_read_write_withTest shape (name ▸ own.named) none

/-! ## Above and below the executor -/

theorem linesOf_textsAbove (printable : test.IsPrintable) :
    linesOf (textsAbove test) =
      openingLines test ++ (linesOf (writeGuid test.guid) ++
        linesOf (writeInputs test.arguments)) := by
  have listed : '\n' ∉ platformsLine test := by
    unfold platformsLine
    rw [List.mem_append, not_or]
    exact ⟨by decide, (isLine_writeList printable.platforms).1⟩
  have blank : '\n' ∉ ([] : Text) := by simp
  simp only [textsAbove, openingLines, Text.linesOf_append, List.append_assoc, List.cons_append,
    List.nil_append, Text.linesOf_cons_of_single blank, Text.linesOf_cons_of_single listed]

/-- Above the executor of a printable test stand its platforms, guid and inputs. -/
theorem isBlock_textsAbove (printable : test.IsPrintable) :
    IsBlock [.platforms, .guid, .inputs] (linesBack (textsAbove test)) := by
  have block : IsBlock [.platforms, .guid, .inputs] (linesOf (textsAbove test)) := by
    rw [linesOf_textsAbove printable]
    refine ((isBlock_openingLines printable).mono (by simp)).append ?_
    refine ((isBlock_writeGuid printable.guid).mono (by simp)).append ?_
    exact (isBlock_writeInputs printable.arguments).mono (by simp)
  rwa [Text.linesBack_eq_linesOf block.unreturned]

/-- The lines of a test below its executor. -/
def linesBelow (test : AtomicTest) : List Text :=
  linesBack ([[]] ++ (writeDependencies test ++ ["<br/>".toList]))

theorem linesBelow_of_no_dependencies (empty : test.dependencies = []) :
    linesBelow test = [[], "<br/>".toList] := by
  rw [linesBelow, writeDependencies, if_pos (by simp [empty])]
  rfl

theorem linesBelow_of_dependencies
    (line : IsLine test.dependencyInterpreter)
    (nonempty : test.dependencies ≠ []) :
    linesBelow test =
      [] :: ("#### Dependencies:  Run with `".toList ++ test.dependencyInterpreter ++
          "`!".toList) ::
        (linesBack (test.dependencies.flatMap
            (DependencyBlock.writeOne (ExecutorBlock.language test.dependencyInterpreter))) ++
          [[], "<br/>".toList]) := by
  have blank : linesBack [[]] = [[]] := rfl
  have lineBreak : linesBack ["<br/>".toList] = ["<br/>".toList] := rfl
  rw [linesBelow, Text.linesBack_append, Text.linesBack_append, blank, lineBreak,
    DependencyBlock.linesBack_writeDependencies line nonempty]
  simp

/-! ## A plain page -/

/-- A plain technique without tests. -/
def shellBase : Technique := Technique.bare "T1059".toList "Shell".toList

/-- A plain test with a dependency. -/
def toolTest : AtomicTest := shellTest plainCommand .check

theorem isPrintable_toolTest : (shellBase.withTest toolTest).IsPrintable :=
  isPrintable_shellTechnique ⟨isCode_plainCommand, by decide⟩ .check

end Page

end TechniquePages
