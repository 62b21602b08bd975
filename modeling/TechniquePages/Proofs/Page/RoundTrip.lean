import TechniquePages.Proofs.Page.WrittenPage

/-!
# Pages, written and read

A page gives its technique back, in the one shape that a page has, if nothing in
the technique looks like a mark, and if decoding leaves its commands alone.
Writing what was read gives the same page.
-/

namespace TechniquePages.Page

/-! ## Shape -/

theorem writeTests_map
    {change : AtomicTest → AtomicTest}
    (same : ∀ number test, writeTest number (change test) = writeTest number test)
    (number : Nat)
    (tests : List AtomicTest) :
    writeTests number (tests.map change) = writeTests number tests := by
  induction tests generalizing number with
  | nil => rfl
  | cons test rest hypothesis => rw [List.map_cons, writeTests, writeTests, same, hypothesis]

theorem writeIndex_map
    {change : AtomicTest → AtomicTest}
    (same : ∀ test, (change test).name = test.name)
    (number : Nat)
    (tests : List AtomicTest) :
    writeIndex number (tests.map change) = writeIndex number tests := by
  induction tests generalizing number with
  | nil => rfl
  | cons test rest hypothesis => simp only [List.map_cons, writeIndex, same, hypothesis]

/-- Tests that are written alike make the same page. -/
theorem write_mapTests
    {change : AtomicTest → AtomicTest}
    (same : ∀ number test, writeTest number (change test) = writeTest number test)
    (named : ∀ test, (change test).name = test.name)
    (technique : Technique) :
    write (technique.mapTests change) = write technique := by
  have lines : writeLines (technique.mapTests change) = writeLines technique := by
    have tests : (technique.mapTests change).tests = technique.tests.map change := rfl
    rw [writeLines, tests, writeTests_map same, writeIndex_map named]
    rfl
  rw [write, lines, write]

/-- A page does not show which shape a technique has. -/
theorem write_inPageShape (technique : Technique) :
    write technique.inPageShape = write technique :=
  @write_mapTests AtomicTest.inPageShape (fun _ _ => rfl) (fun _ => rfl) technique

/-! ## Reading a written page -/

/-- A printable technique is read back from its page, with its commands decoded. -/
theorem read_write_reread
    {technique : Technique}
    (printable : technique.IsPrintable) :
    read (write technique) = .ok technique.reread := by
  have lines := lines_write_of_isPrintable printable
  have parts := divide_scanFrom 1 (free_frontLines printable)
    (isProper_writtenPassages printable.tests 1)
  have title : Line.first? LineKind.title? (scan (write technique)) =
      some (technique.identifier, technique.name) := by
    rw [scan, lines, pageLines, frontLines, List.cons_append,
      (hasKind_titleLine printable).scanFrom_cons]
    rfl
  have divided : divide (scan (write technique)) =
      (scanFrom 1 none (frontLines technique),
        sectionsFrom (1 + (frontLines technique).length) (writtenPassages 1 technique.tests)) := by
    rw [scan, lines]
    exact parts
  rw [read, readLines, title]
  simp only [sections, preamble, divided, readTests_writtenPassages printable.tests,
    techniqueDescription?_frontLines printable]
  rfl

theorem reread_executor
    {executor : Executor}
    (decoded : ∀ command ∈ executor.commands, Html.decode command = command) :
    executor.reread = { executor with key := .separate } := by
  rcases executor with ⟨kind, elevated, procedure, key⟩
  cases kind with
  | manual => rfl
  | command name cleanup =>
    have own : Html.decode procedure = procedure := decoded procedure (List.mem_cons_self ..)
    cases cleanup with
    | none => simp [Executor.reread, own]
    | some text =>
      have cleans : Html.decode text = text :=
        decoded text (List.mem_cons_of_mem _ (List.mem_singleton_self text))
      simp [Executor.reread, own, cleans]

theorem reread_dependency
    {dependency : Dependency}
    (decoded : ∀ command ∈ dependency.commands, Html.decode command = command) :
    dependency.reread = dependency := by
  rcases dependency with ⟨description, check, get⟩
  have own : Html.decode check = check := decoded check (List.mem_cons_self ..)
  cases get with
  | none => simp [Dependency.reread, own]
  | some text =>
    have gets : Html.decode text = text :=
      decoded text (List.mem_cons_of_mem _ (List.mem_singleton_self text))
    simp [Dependency.reread, own, gets]

/-- Reading changes nothing but the shape, where decoding leaves the commands alone. -/
theorem reread_eq_inPageShape
    {test : AtomicTest}
    (decoded : ∀ command ∈ test.commands, Html.decode command = command) :
    test.reread = test.inPageShape := by
  have executor := reread_executor fun command member =>
    decoded command (List.mem_append_left _ member)
  have dependencies : test.dependencies.map Dependency.reread = test.dependencies := by
    refine (List.map_congr_left fun dependency member => ?_).trans (List.map_id _)
    apply reread_dependency
    intro command inside
    exact decoded command
      (List.mem_append_right _ (List.mem_flatMap.mpr ⟨dependency, member, inside⟩))
  rw [AtomicTest.reread, executor, dependencies, AtomicTest.inPageShape]

/--
A well-formed technique is read back from its page in the shape that a page has,
and writing it in that shape gives the same page.
-/
theorem read_write_of_isWellFormed
    (technique : Technique)
    (wellFormed : technique.IsWellFormed) :
    read (write technique) = .ok technique.inPageShape ∧
      write technique.inPageShape = write technique := by
  have tests : technique.reread = technique.inPageShape := by
    unfold Technique.reread Technique.inPageShape Technique.mapTests
    rw [List.map_congr_left fun test member =>
      reread_eq_inPageShape (wellFormed.decoded test member)]
  refine ⟨?_, write_inPageShape technique⟩
  rw [← tests]
  exact read_write_reread wellFormed.toIsPrintable

/-- A manual test with fences and headings in its free text. -/
def dumpByHand : AtomicTest where
  name := "Dump by hand".toList
  description := "Run\n```\n#### Inputs:\n```".toList
  platforms := ["windows".toList, "iaas:aws".toList]
  executor := ⟨.manual, true, "Open it\n\n##### Description: see above".toList, .shared⟩
  arguments := .empty
  dependencies := []
  dependencyExecutor := none
  guid := none

theorem isPrintable_dumpByHand : dumpByHand.IsPrintable := by
  have described : IsDescription dumpByHand.description :=
    ⟨⟨by decide +kernel, by decide +kernel, by decide +kernel, by decide +kernel,
      by decide +kernel⟩, by decide +kernel⟩
  have steps : IsSteps dumpByHand.executor.procedure :=
    ⟨⟨by decide +kernel, by decide +kernel, by decide +kernel, by decide +kernel,
      by decide +kernel⟩, by decide +kernel⟩
  have platforms : ∀ token ∈ dumpByHand.platforms, IsPlatform token := by
    intro token member
    change token ∈ ["windows".toList, "iaas:aws".toList] at member
    simp only [List.mem_cons, List.not_mem_nil, or_false] at member
    rcases member with rfl | rfl <;>
      exact ⟨⟨by decide +kernel, by decide +kernel⟩, by decide +kernel, by decide +kernel,
        by decide +kernel⟩
  exact {
    name := ⟨by decide +kernel, by decide⟩
    named := by decide
    description := described
    platforms := platforms
    executor := steps
    arguments := nofun
    distinct := List.nodup_nil
    dependencies := nofun
    dependencyExecutor := nofun
    guid := nofun }

/-- A test that gives a command, with every part that such a test can have. -/
def dumpByCommand : AtomicTest where
  name := "Dump".toList
  description := []
  platforms := []
  executor := ⟨.command "sh".toList (some "rm x".toList), false, "dump\n| x |".toList, .shared⟩
  arguments := ⟨.listed, [⟨"path".toList, none, some "Path".toList, some "C:\\x".toList⟩]⟩
  dependencies := [⟨"A tool".toList, "which tool".toList, some "get tool".toList⟩]
  dependencyExecutor := some "bash".toList
  guid := some "0a1b2c3d-0000-4000-8000-0123456789ab".toList

theorem isCode_dumpByCommand :
    ∀ command ∈ dumpByCommand.commands,
      IsCode command ∧ command ≠ [] ∧ Html.decode command = command := by
  intro command member
  have listed : dumpByCommand.commands =
      ["dump\n| x |".toList, "rm x".toList, "which tool".toList, "get tool".toList] := rfl
  rw [listed] at member
  simp only [List.mem_cons, List.not_mem_nil, or_false] at member
  rcases member with rfl | rfl | rfl | rfl <;>
    exact ⟨⟨by decide +kernel, by decide +kernel, by decide +kernel⟩, by decide,
      Html.decode_eq_self _ (by decide)⟩

theorem isPrintable_dumpByCommand : dumpByCommand.IsPrintable := by
  have cell : ∀ text ∈ ["path".toList, "Path".toList, "C:\\x".toList], IsCell text ∧ text ≠ [] := by
    intro text member
    simp only [List.mem_cons, List.not_mem_nil, or_false] at member
    rcases member with rfl | rfl | rfl <;>
      exact ⟨⟨⟨by decide +kernel, by decide⟩, by decide, Html.decode_eq_self _ (by decide)⟩,
        by decide⟩
  have argument : ∀ argument ∈ dumpByCommand.arguments.entries, argument.IsPrintable := by
    intro argument member
    rw [List.mem_singleton.mp member]
    refine ⟨(cell _ (by simp)).1, by simp, ?_, ?_⟩
    · rintro text ⟨⟩
      exact cell _ (by simp)
    · rintro text ⟨⟩
      exact cell _ (by simp)
  have dependency : ∀ dependency ∈ dumpByCommand.dependencies, dependency.IsPrintable := by
    intro dependency member
    rw [List.mem_singleton.mp member]
    have check := isCode_dumpByCommand "which tool".toList (.tail _ (.tail _ (.head _)))
    have get := isCode_dumpByCommand "get tool".toList (.tail _ (.tail _ (.tail _ (.head _))))
    refine ⟨⟨by decide +kernel, by decide⟩, Html.decode_eq_self _ (by decide), check.1, ?_⟩
    rintro text ⟨⟩
    exact ⟨get.1, get.2.1⟩
  have executor : dumpByCommand.executor.IsPrintable := by
    have cleanup := isCode_dumpByCommand "rm x".toList (.tail _ (.head _))
    have word : ∀ character ∈ "sh".toList, Marker.isLanguageCharacter character = true :=
      List.all_eq_true.mp (by decide)
    refine ⟨⟨⟨by decide, word⟩, by decide⟩, (isCode_dumpByCommand _ (.head _)).1, ?_⟩
    rintro text ⟨⟩
    exact ⟨cleanup.1, cleanup.2.1⟩
  have guid : IsGuid "0a1b2c3d-0000-4000-8000-0123456789ab".toList := by
    have digits : ["0a1b2c3d".toList, "0000".toList, "4000".toList, "8000".toList,
        "0123456789ab".toList].all (·.all Marker.isHexDigit) = true := by decide
    exact ⟨_, rfl, fun group member => List.all_eq_true.mp (List.all_eq_true.mp digits group member),
      rfl⟩
  exact {
    name := ⟨by decide +kernel, by decide⟩
    named := by decide
    description := ⟨⟨rfl, by decide, by decide, by decide, by decide⟩, by decide⟩
    platforms := nofun
    executor := executor
    arguments := argument
    distinct := List.nodup_singleton _
    dependencies := dependency
    dependencyExecutor := by
      rintro name ⟨⟩
      exact ⟨⟨by decide, List.all_eq_true.mp (by decide)⟩, by decide, List.cons_ne_nil _ _⟩
    guid := by
      rintro text ⟨⟩
      exact guid }

/-- A technique with two tests and a description that opens a fence and holds a title. -/
def dumpTechnique : Technique where
  identifier := "T1003.001".toList
  name := "OS Credential Dumping".toList
  description := some "Dumps\n```\n# T1 - no title".toList
  tests := [dumpByHand, dumpByCommand]

theorem isWellFormed_dumpTechnique : dumpTechnique.IsWellFormed where
  identifier :=
    @IsIdentifier.divided "1003".toList "001".toList ⟨rfl, List.all_eq_true.mp (by decide)⟩
      ⟨rfl, List.all_eq_true.mp (by decide)⟩
  name := ⟨by decide +kernel, by decide⟩
  named := by decide
  description := by
    rintro text ⟨⟩
    exact ⟨by decide +kernel, by decide, by decide +kernel, by decide +kernel, by decide +kernel⟩
  tests := by
    intro test member
    rcases List.mem_pair.mp member with rfl | rfl
    · exact isPrintable_dumpByHand
    · exact isPrintable_dumpByCommand
  decoded := by
    intro test member command inside
    rcases List.mem_pair.mp member with rfl | rfl
    · exact absurd inside List.not_mem_nil
    · exact (isCode_dumpByCommand command inside).2.2

/-- The page of `dumpTechnique` gives it back, keyed and under its own procedure keys. -/
theorem read_write_dumpTechnique :
    dumpTechnique.IsWellFormed ∧ read (write dumpTechnique) = .ok dumpTechnique.inPageShape ∧
      write dumpTechnique.inPageShape = write dumpTechnique :=
  ⟨isWellFormed_dumpTechnique,
    read_write_of_isWellFormed dumpTechnique isWellFormed_dumpTechnique⟩

end TechniquePages.Page
