import TechniquePages.Proofs.Page.ReadShape
import TechniquePages.Proofs.Technique.Arguments

/-!
# The normal form of what is read

A technique that is read from a page is in normal form, whatever the page holds.  Its
number and its guids are spelled as such; names, descriptions and steps are trimmed;
a text that may be absent is absent where the page has an empty one; arguments are
keyed by different names; and the interpreter of the dependencies is named only where
it is not that of the test.

Every part is found by itself, so each has its own lemma about the lines it is found
in, and a test is in normal form because its parts are.
-/

namespace TechniquePages

open Page
open Text (IsTrimmed isTrimmed_trim)

/-! ## Normal forms -/

/-- An executor with its own key: trimmed steps, or a command whose cleanup is not empty. -/
structure Executor.IsNormal (executor : Executor) : Prop where
  key : executor.key = .separate
  steps : executor.kind = .manual → IsTrimmed executor.procedure
  cleanup : executor.cleanup? ≠ some []

/-- Arguments keyed by different names, without empty fields. -/
structure Arguments.IsNormal (arguments : Arguments) : Prop where
  keyed : arguments.layout = .keyed
  distinct : arguments.names.Nodup
  filled : ∀ argument ∈ arguments.entries,
    some [] ∉ [argument.description, argument.type, argument.value]

/-- A test with trimmed texts, in which nothing that may be absent is empty. -/
structure AtomicTest.IsNormal (test : AtomicTest) : Prop where
  name : IsTrimmed test.name
  description : IsTrimmed test.description
  platforms : [] ∉ test.platforms
  guid : ∀ guid ∈ test.guid, IsGuid guid
  arguments : test.arguments.IsNormal
  executor : test.executor.IsNormal
  dependencies : ∀ dependency ∈ test.dependencies, dependency.get ≠ some []
  dependencyExecutor : test.dependencyExecutor ≠ some test.executor.name

/-- A technique with an identifier, a name, and tests of this form. -/
structure Technique.IsNormal (technique : Technique) : Prop where
  identifier : IsIdentifier technique.identifier
  name : IsTrimmed technique.name ∧ technique.name ≠ []
  description : ∀ text ∈ technique.description, IsTrimmed text ∧ text ≠ []
  tests : ∀ test ∈ technique.tests, test.IsNormal

namespace Page

/-! ## Executors and dependencies -/

theorem ExecutorBlock.nonEmpty?_eq_some_iff (text kept : Text) :
    nonEmpty? text = some kept ↔ text = kept ∧ kept ≠ [] := by
  rw [nonEmpty?]
  split
  · rename_i empty
    have absent : text = [] := by simpa using empty
    subst absent
    simp [eq_comm]
  · rename_i nonempty
    have present : text ≠ [] := by simpa using nonempty
    constructor
    · rintro ⟨⟩
      exact ⟨rfl, present⟩
    · rintro ⟨rfl, -⟩
      rfl

/-- A block that follows a heading is kept only if something is in it. -/
theorem ExecutorBlock.cleanup?_ne_some_nil (lines : List Line) : cleanup? lines ≠ some [] := by
  intro empty
  simp only [cleanup?, Option.bind_eq_bind, Option.bind_eq_some_iff, nonEmpty?_eq_some_iff] at empty
  rcases empty with ⟨_, -, _, -, -, nonempty⟩
  exact nonempty rfl

theorem DependencyBlock.get?_ne_some_nil (lines : List Line) : get? lines ≠ some [] := by
  intro empty
  simp only [get?, Option.bind_eq_bind, Option.bind_eq_some_iff,
    ExecutorBlock.nonEmpty?_eq_some_iff] at empty
  rcases empty with ⟨_, -, _, -, -, nonempty⟩
  exact nonempty rfl

theorem ExecutorBlock.isNormal_executor
    {test : Text}
    {body : List Line}
    {executor : Executor}
    (known : read test body = .ok executor) :
    executor.IsNormal := by
  rcases read_eq_ok known with
    ⟨elevated, rest, -, rfl⟩ | ⟨printed, elevated, rest, block, -, -, rfl⟩
  · exact ⟨rfl, fun _ => isTrimmed_trim _, by simp [Executor.cleanup?]⟩
  · exact ⟨rfl, by simp, cleanup?_ne_some_nil block.rest⟩

theorem DependencyBlock.get_of_dependency?
    {description : Text}
    {lines : List Line}
    {dependency : Dependency}
    (found : dependency? description lines = some dependency) :
    dependency.get ≠ some [] := by
  rw [dependency?] at found
  split at found
  · cases found
  · split at found <;> rw [← Option.some.inj found] <;> exact get?_ne_some_nil _

theorem DependencyBlock.get_of_mem_readFrom
    {lines : List Line}
    {dependency : Dependency}
    (member : dependency ∈ readFrom lines) :
    dependency.get ≠ some [] := by
  fun_induction readFrom lines with
  | case1 => cases member
  | case2 line rest unmarked hypothesis => exact hypothesis member
  | case3 line rest description marked stopped => cases member
  | case4 line rest description marked first found hypothesis =>
    rcases List.mem_cons.mp member with rfl | later
    · exact get_of_dependency? found
    · exact hypothesis later

/-- Dependencies have no empty get command, and no interpreter that is the test's own. -/
theorem DependencyBlock.read_normal
    (executor : Text)
    (body : List Line) :
    (read executor body).1 ≠ some executor ∧
      ∀ dependency ∈ (read executor body).2, dependency.get ≠ some [] := by
  rw [read]
  split
  · simp
  · rename_i printed rest found
    refine ⟨?_, fun dependency member => get_of_mem_readFrom member⟩
    by_cases own : printed = executor <;> simp [own]

/-! ## Arguments and platforms -/

theorem InputsTable.present?_ne_some_nil (cell : Text) : present? cell ≠ some [] := by
  rw [present?]
  split
  · simp
  · rename_i nonempty
    simpa using nonempty

/-- An argument of a row has no empty fields. -/
theorem InputsTable.filled_of_argument?
    {row : Text}
    {argument : Argument}
    (found : argument? row = some argument) :
    some [] ∉ [argument.description, argument.type, argument.value] := by
  rw [argument?] at found
  split at found
  · rw [← Option.some.inj found]
    simp [Ne.symm (present?_ne_some_nil _)]
  · cases found

theorem InputsTable.isNormal_arguments (texts : List Text) : (arguments texts).IsNormal := by
  rw [arguments, Arguments.foldl_insert_empty]
  refine ⟨rfl, ?_, ?_⟩
  · rw [Arguments.names, Arguments.map_name_settled]
    exact Arguments.nodup_firstNames _
  · intro argument member
    rcases List.mem_filterMap.mp (Arguments.mem_of_mem_settled member) with ⟨row, -, found⟩
    exact filled_of_argument? found

theorem Section.isNormal_arguments (body : List Line) : (arguments body).IsNormal := by
  rw [arguments]
  cases inputTexts? body with
  | none => exact ⟨rfl, List.nodup_nil, by simp [Arguments.empty]⟩
  | some texts => exact InputsTable.isNormal_arguments texts

theorem Platform.token_ne_nil
    {display : Text}
    (nonempty : display ≠ []) :
    token display ≠ [] := by
  have written : ∀ entry ∈ known, entry.2.toList ≠ [] := by decide
  rw [token]
  split
  · rename_i entry found
    exact written _ (List.mem_of_find?_eq_some found)
  · exact Unicode.lower_ne_nil nonempty

theorem Platform.nil_not_mem_readList (names : Text) : [] ∉ readList names := by
  intro member
  rcases List.mem_map.mp member with ⟨display, kept, empty⟩
  have nonempty : display ≠ [] := by simpa using (List.mem_filter.mp kept).2
  exact token_ne_nil nonempty empty

theorem Section.nil_not_mem_platforms (body : List Line) : [] ∉ platforms body := by
  rw [platforms]
  cases Line.first? LineKind.platforms? body with
  | none => exact List.not_mem_nil
  | some names => exact Platform.nil_not_mem_readList names

/-! ## Tests and techniques -/

/-- The normal form of a test asks for the shape of its name and guid, which the page gives. -/
theorem Section.isNormal_test
    {part : Section}
    {test : AtomicTest}
    (known : part.read = .ok test)
    (shape : test.IsRead) :
    test.IsNormal := by
  rcases exists_executor_of_read known with ⟨executor, outcome, rfl⟩
  have dependencies := DependencyBlock.read_normal executor.name part.body
  exact {
    name := shape.name.trimmed
    description := isTrimmed_trim _
    platforms := nil_not_mem_platforms part.body
    guid := shape.guid
    arguments := isNormal_arguments part.body
    executor := ExecutorBlock.isNormal_executor outcome
    dependencies := dependencies.2
    dependencyExecutor := dependencies.1 }

theorem techniqueDescription?_normal
    {preamble : List Line}
    {text : Text}
    (found : techniqueDescription? preamble = some text) :
    IsTrimmed text ∧ text ≠ [] := by
  simp only [techniqueDescription?, Option.bind_eq_bind, Option.bind_eq_some_iff,
    ExecutorBlock.nonEmpty?_eq_some_iff] at found
  rcases found with ⟨_, -, _, -, _, -, rfl, nonempty⟩
  exact ⟨isTrimmed_trim _, nonempty⟩

/-- Every technique that is read from a page is in normal form. -/
theorem isNormal_of_read
    {page : Text}
    {technique : Technique}
    (known : read page = .ok technique) :
    technique.IsNormal := by
  have shape := isRead_of_read known
  rcases read_eq_ok known with ⟨-, description, readable⟩
  refine ⟨shape.identifier, ⟨shape.name.trimmed, shape.named⟩, ?_, ?_⟩
  · intro text present
    exact techniqueDescription?_normal (description.trans present)
  · intro test member
    rcases exists_section_of_mem readable member with ⟨part, -, ofPart⟩
    exact Section.isNormal_test ofPart (shape.tests test member)

/-- A page with blanks, an empty block and empty cells, and a name that repeats. -/
def raggedPage : Text :=
  "# t1059 -  Shell \n## Atomic Test #1 - First \n\nSays a word.\n\n".toList ++
    "**Supported Platforms:** macOS,, Other\n#### Inputs:\n|Name|Type|\n|--|--|\n".toList ++
    "| x | A word | string | a |\n| x | | string | |\n".toList ++
    "#### Attack Commands: Run with `sh`!\n```\necho\n```\n".toList ++
    "#### Cleanup Commands:\n```\n```\n#### Dependencies:  Run with `sh `!\n".toList

/-- What is read from it. -/
def tidyTest : AtomicTest where
  name := "First".toList
  description := "Says a word.".toList
  platforms := ["macos".toList, "other".toList]
  executor := .command "sh".toList "echo".toList
  arguments := ⟨.keyed, [⟨"x".toList, none, some "string".toList, none⟩]⟩
  dependencies := []
  dependencyExecutor := none
  guid := none

theorem isNormal_of_read_raggedPage :
    read raggedPage = .ok ⟨"T1059".toList, "Shell".toList, none, [tidyTest]⟩ ∧
      tidyTest.IsNormal := by
  have known : read raggedPage = .ok ⟨"T1059".toList, "Shell".toList, none, [tidyTest]⟩ := by
    decide
  exact ⟨known, (isNormal_of_read known).tests tidyTest (List.mem_singleton_self _)⟩

end Page

end TechniquePages
