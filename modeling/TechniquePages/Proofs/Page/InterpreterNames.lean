import TechniquePages.Proofs.Page.LoneTest

/-!
# Names of interpreters

The name of an interpreter is printed twice: between quote marks in a heading, and as
the language of the fences below it.  The first reader takes any name, the second one
words only.  Where a name is no word, the line that should open a block opens none, and
the closing fence opens one in its place.  That block ends at the next line with a
fence, whose own block is shifted in the same way, and so on down the page: nothing
closes the last fence.

So a page is read back if the names on it are words, and otherwise not at all.
-/

namespace TechniquePages

open Page
open Text (IsLine linesBack)

/-- The executor with another interpreter; steps by hand have none. -/
def Executor.runBy
    (name : Text)
    (executor : Executor) : Executor :=
  match executor.kind with
  | .manual => executor
  | .command _ cleanup => { executor with kind := .command name cleanup }

namespace AtomicTest

/-- The test with another interpreter, and perhaps another one for its dependencies. -/
def runBy
    (name : Text)
    (dependencyExecutor : Option Text)
    (test : AtomicTest) : AtomicTest :=
  test.recast (test.executor.runBy name) test.dependencies dependencyExecutor

/-- The interpreters that the page of a test names. -/
def interpreters (test : AtomicTest) : List Text :=
  test.executor.name :: if test.dependencies = [] then [] else [test.dependencyInterpreter]

/-- The interpreter of the dependencies is named if there are any and it is not the test's own. -/
def withoutIdleName (test : AtomicTest) : AtomicTest :=
  { test with
    dependencyExecutor := test.dependencyExecutor.filter fun name =>
      test.dependencies ≠ [] ∧ name ≠ test.executor.name }

end AtomicTest

namespace Page

/-- A name that a record can hold and a heading prints as it is. -/
structure IsPrintedName (name : Text) : Prop extends IsQuotable name where
  notManual : name ≠ Executor.manualName
  notPrompt : name.map Char.toLower ≠ "cmd".toList

/-! ## Lines between fences -/

theorem fenceLanguage?_of_isCodeLine
    {text : Text}
    (code : IsCodeLine text) :
    Marker.fenceLanguage? text = none := by
  cases fenced : Marker.fenceLanguage? text with
  | none => rfl
  | some language =>
    have closes := closesFence_of_fenceLanguage? fenced
    rw [code.1] at closes
    cases closes

theorem isCalm_classify
    {text : Text}
    (free : isTestHeading text = false) :
    (classify text).IsCalm := by
  refine ⟨isUnclosed_classify text, ?_⟩
  have unnamed := testName?_classify text
  rw [free] at unnamed
  simpa using unnamed

/-- A line that opens neither a fence nor a test is calm. -/
theorem isCalm_cons_of_unfenced
    {text : Text}
    (unfenced : Marker.fenceLanguage? text = none)
    (free : isTestHeading text = false)
    {texts : List Text}
    (calm : HasKinds LineKind.IsCalm texts) :
    HasKinds LineKind.IsCalm (text :: texts) :=
  calm.cons unclosed_of_isCalm ⟨unfenced, rfl⟩ (isCalm_classify free)

/-- Lines of code are calm where they stand outside a block. -/
theorem isCalm_of_isCodeLine
    {texts : List Text}
    (code : ∀ text ∈ texts, IsCodeLine text) :
    HasKinds LineKind.IsCalm texts :=
  HasKinds.of_unfenced unclosed_of_isCalm
    (fun text member => fenceLanguage?_of_isCodeLine (code text member))
    (fun text member => isCalm_classify (code text member).2)

theorem free_of_isCalm
    {texts : List Text}
    (calm : HasKinds LineKind.IsCalm texts) :
    ∀ text ∈ texts, isTestHeading text = false :=
  isTestHeading_of_mem fun line member => (calm line member).2

theorem IsCode.isPlainCode
    {text : Text}
    (code : IsCode text) :
    IsPlainCode text := by
  rw [IsPlainCode, code.trimmed.trim_eq]
  exact code.plain

/-! ## Fences without an end -/

/-- The lines open no test, and the first fence among them without an end is two lines above
their last one. -/
structure EndsOpen (texts : List Text) : Prop where
  free : ∀ text ∈ texts, isTestHeading text = false
  unclosed : ∀ number, ∃ line,
    Section.unclosedFence? (scanFrom number none texts) = some line ∧
      line + 3 = number + texts.length

namespace EndsOpen

variable {front back : List Text}

theorem append
    (calm : HasKinds LineKind.IsCalm front)
    (ends : EndsOpen back) :
    EndsOpen (front ++ back) := by
  have closed : FencesClosed front := fun line member => (calm line member).1
  refine ⟨List.forall_mem_append.mpr ⟨free_of_isCalm calm, ends.free⟩, fun number => ?_⟩
  rcases ends.unclosed (number + front.length) with ⟨line, found, last⟩
  refine ⟨line, ?_, by rw [List.length_append]; omega⟩
  have passed : (scanFrom number none front).find? (fun line => line.kind.isUnclosed) = none := by
    rw [List.find?_eq_none]
    intro other member
    simp [forall_kind_scanFrom (·.isUnclosed = false) closed number other member]
  rw [Section.unclosedFence?, scanFrom_append closed, List.find?_append, passed, Option.none_or]
  exact found

/-- A fence below which no other one stands. -/
theorem last : EndsOpen ["```".toList, [], "<br/>".toList] :=
  ⟨by decide, fun number => ⟨number, rfl, rfl⟩⟩

end EndsOpen

/-- Below a closing fence that opens a block, the last fence is left without an end. -/
def IsShifted (texts : List Text) : Prop :=
  EndsOpen ("```".toList :: texts)

section Fences

variable {language content : Text} {gap rest : List Text}

/-- A block below a shifted one is shifted: its opening fence closes the one before. -/
theorem IsShifted.append_write
    (line : IsLine language)
    (plain : IsPlainCode content)
    (gapped : ∀ text ∈ gap, IsCodeLine text)
    (shifted : IsShifted rest) :
    IsShifted (gap ++ (linesBack (FencedBlock.write language content) ++ rest)) := by
  have opens : Marker.fenceLanguage? "```".toList = some [] := rfl
  have ends : IsClosingFence ("```".toList ++ language) := ⟨rfl, rfl⟩
  have block : HasKinds LineKind.IsCalm ("```".toList :: (gap ++ ["```".toList ++ language])) :=
    HasKinds.fenced opens gapped ends ⟨⟨rfl, rfl⟩, ⟨rfl, rfl⟩, ⟨rfl, rfl⟩⟩
  have code : HasKinds LineKind.IsCalm (linesBack [content.trim]) :=
    isCalm_of_isCodeLine fun text => plain.isCodeLine_of_mem
  have whole := (shifted.append code).append block
  rw [IsShifted, linesBack_write line]
  simpa using whole

/-- The fence of a name that is no word opens no block. -/
theorem fenceLanguage?_eq_none
    {name : Text}
    (line : IsLine name)
    (nonempty : name ≠ [])
    (other : ¬ IsInterpreter name) :
    Marker.fenceLanguage? ("```".toList ++ name) = none := by
  have beyond : name.dropWhile Marker.isLanguageCharacter ≠ [] := by
    rw [Ne, List.dropWhile_eq_nil_iff]
    exact fun word => other ⟨nonempty, word⟩
  -- The last character of the name is no blank, and it is among those beyond the word.
  have solid : Marker.isEmptyTail (name.dropWhile Marker.isLanguageCharacter) = false := by
    rcases List.dropWhile_suffix Marker.isLanguageCharacter (l := name) with ⟨word, whole⟩
    have last : name.getLast? =
        some ((name.dropWhile Marker.isLanguageCharacter).getLast beyond) := by
      conv_lhs => rw [← whole, List.getLast?_append_of_ne_nil _ beyond]
      exact List.getLast?_eq_getLast_of_ne_nil beyond
    have unblank := ((Text.isTrimmed_iff name).mp line.trimmed).2 _ last
    rw [Marker.isEmptyTail, List.all_eq_false]
    exact ⟨_, List.getLast_mem beyond, by simp [unblank]⟩
  have mark : Text.after? Marker.fence ("```".toList ++ name) = some name := rfl
  rw [Marker.fenceLanguage?, mark]
  simp [solid]

/-- A block for a name that is no word leaves its closing fence to open the next one. -/
theorem EndsOpen.write
    {name : Text}
    (line : IsLine name)
    (nonempty : name ≠ [])
    (other : ¬ IsInterpreter name)
    (plain : IsPlainCode content)
    (shifted : IsShifted rest) :
    EndsOpen (linesBack (FencedBlock.write name content) ++ rest) := by
  have code : HasKinds LineKind.IsCalm (linesBack [content.trim]) :=
    isCalm_of_isCodeLine fun text => plain.isCodeLine_of_mem
  have opening : HasKinds LineKind.IsCalm (("```".toList ++ name) :: linesBack [content.trim]) :=
    isCalm_cons_of_unfenced (fenceLanguage?_eq_none line nonempty other) rfl code
  have whole := EndsOpen.append opening shifted
  rw [linesBack_write line]
  simpa using whole

end Fences

/-! ## Languages -/

theorem isInterpreter_of_all
    {name : Text}
    (nonempty : name ≠ [])
    (word : name.all Marker.isLanguageCharacter = true) :
    IsInterpreter name :=
  ⟨nonempty, List.all_eq_true.mp word⟩

/-- A name that is no word is printed on fences as it is. -/
theorem language_eq_self
    {name : Text}
    (other : ¬ IsInterpreter name) :
    ExecutorBlock.language name = name := by
  unfold ExecutorBlock.language
  split
  case isTrue prompt =>
    exact absurd (prompt ▸ isInterpreter_of_all (by decide) (by decide)) other
  case isFalse =>
    split
    case isTrue manual =>
      exact absurd (manual ▸ isInterpreter_of_all (by decide) (by decide)) other
    case isFalse => rfl

theorem isLine_language
    {name : Text}
    (line : IsLine name) :
    IsLine (ExecutorBlock.language name) := by
  unfold ExecutorBlock.language
  split
  · exact isLine_of_word (List.all_eq_true.mp (by decide))
  · split
    · exact isLine_of_word (by simp)
    · exact line

/-! ## Shifted lines of a test -/

theorem linesBack_writeOne_of_isPrintable
    {language : Text}
    {dependency : Dependency}
    (printable : dependency.IsPrintable) :
    linesBack (DependencyBlock.writeOne language dependency) =
      ("##### Description: ".toList ++ dependency.description) ::
        "##### Check Prereq Commands:".toList ::
          (linesBack (FencedBlock.write language dependency.check) ++
            linesBack (DependencyBlock.writeGet language dependency.get)) := by
  have line := printable.description
  have single : '\n' ∉ "##### Description: ".toList ++ dependency.description := by
    rw [List.mem_append, not_or]
    exact ⟨by decide, line.single⟩
  have unreturned : ("##### Description: ".toList ++ dependency.description).getLast? ≠ some '\r' :=
    Text.getLast?_append_ne (by decide) line.trimmed.unreturned
  rw [DependencyBlock.linesBack_writeOne, line.trimmed.trim_eq,
    Text.linesBack_cons_of_single single unreturned]
  rfl

section Shifted

variable {language : Text} {rest : List Text}

theorem isShifted_writeCleanup
    (line : IsLine language)
    {cleanup : Option Text}
    (plain : ∀ text ∈ cleanup, IsPlainCode text)
    (shifted : IsShifted rest) :
    IsShifted (linesBack (ExecutorBlock.writeCleanup language cleanup) ++ rest) := by
  rcases ExecutorBlock.linesBack_writeCleanup_cases language cleanup with
    empty | ⟨text, present, written⟩
  · rwa [empty]
  · have gapped : ∀ text ∈ [[], "#### Cleanup Commands:".toList], IsCodeLine text := by decide
    rw [written]
    exact shifted.append_write line (plain text present) gapped

theorem isShifted_writeGet
    (line : IsLine language)
    {get : Option Text}
    (plain : ∀ text ∈ get, IsPlainCode text)
    (shifted : IsShifted rest) :
    IsShifted (linesBack (DependencyBlock.writeGet language get) ++ rest) := by
  rcases DependencyBlock.linesBack_writeGet_cases language get with
    empty | ⟨text, present, written⟩
  · rwa [empty]
  · have gapped : ∀ text ∈ ["##### Get Prereq Commands:".toList], IsCodeLine text := by decide
    rw [written]
    exact shifted.append_write line (plain text present) gapped

theorem isShifted_writeOne
    (line : IsLine language)
    {dependency : Dependency}
    (printable : dependency.IsPrintable)
    {gap : List Text}
    (gapped : ∀ text ∈ gap, IsCodeLine text)
    (shifted : IsShifted rest) :
    IsShifted (gap ++ (linesBack (DependencyBlock.writeOne language dependency) ++ rest)) := by
  have get := isShifted_writeGet line
    (fun text present => (printable.get text present).1.isPlainCode) shifted
  have headed : ∀ text ∈ gap ++ ["##### Description: ".toList ++ dependency.description,
      "##### Check Prereq Commands:".toList], IsCodeLine text := by
    refine List.forall_mem_append.mpr ⟨gapped, ?_⟩
    exact List.forall_mem_cons.mpr ⟨⟨rfl, rfl⟩, List.forall_mem_singleton.mpr ⟨rfl, rfl⟩⟩
  have whole := get.append_write line printable.check.isPlainCode headed
  rw [linesBack_writeOne_of_isPrintable printable]
  simpa using whole

theorem isShifted_flatMap
    (line : IsLine language)
    {dependencies : List Dependency}
    (printable : ∀ dependency ∈ dependencies, dependency.IsPrintable)
    (shifted : IsShifted rest) :
    IsShifted (linesBack (dependencies.flatMap (DependencyBlock.writeOne language)) ++ rest) := by
  induction dependencies with
  | nil => exact shifted
  | cons dependency others hypothesis =>
    rcases List.forall_mem_cons.mp printable with ⟨own, later⟩
    have gapped : ∀ text ∈ ([] : List Text), IsCodeLine text := by simp
    rw [List.flatMap_cons, Text.linesBack_append, List.append_assoc]
    exact isShifted_writeOne line own gapped (hypothesis later)

end Shifted

variable {test : AtomicTest}

/-- Below a shifted executor the dependencies are shifted, whatever their interpreter. -/
theorem isShifted_linesBelow
    (line : IsLine test.dependencyInterpreter)
    (printable : ∀ dependency ∈ test.dependencies, dependency.IsPrintable) :
    IsShifted (linesBelow test) := by
  have last : IsShifted [[], "<br/>".toList] := EndsOpen.last
  cases known : test.dependencies with
  | nil => rwa [linesBelow_of_no_dependencies known]
  | cons dependency others =>
    rw [known] at printable
    rcases List.forall_mem_cons.mp printable with ⟨own, later⟩
    have headed : ∀ text ∈ [[], "#### Dependencies:  Run with `".toList ++
        test.dependencyInterpreter ++ "`!".toList], IsCodeLine text :=
      List.forall_mem_cons.mpr ⟨⟨rfl, rfl⟩, List.forall_mem_singleton.mpr ⟨rfl, rfl⟩⟩
    have whole := isShifted_writeOne (isLine_language line) own headed
      (isShifted_flatMap (isLine_language line) later last)
    rw [linesBelow_of_dependencies line (by simp [known]), known, List.flatMap_cons,
      Text.linesBack_append]
    simpa using whole

/-- Dependencies for an interpreter whose name is no word leave the last fence open. -/
theorem endsOpen_linesBelow
    (quotable : IsQuotable test.dependencyInterpreter)
    (other : ¬ IsInterpreter test.dependencyInterpreter)
    (nonempty : test.dependencies ≠ [])
    (printable : ∀ dependency ∈ test.dependencies, dependency.IsPrintable) :
    EndsOpen (linesBelow test) := by
  have last : IsShifted [[], "<br/>".toList] := EndsOpen.last
  have line := quotable.line
  rw [linesBelow_of_dependencies line nonempty, language_eq_self other]
  cases known : test.dependencies with
  | nil => exact absurd known nonempty
  | cons dependency others =>
    rw [known] at printable
    rcases List.forall_mem_cons.mp printable with ⟨own, later⟩
    have get := isShifted_writeGet line
      (fun text present => (own.get text present).1.isPlainCode)
      (isShifted_flatMap line later last)
    have headed : HasKinds LineKind.IsCalm [[], "#### Dependencies:  Run with `".toList ++
        test.dependencyInterpreter ++ "`!".toList,
        "##### Description: ".toList ++ dependency.description,
        "##### Check Prereq Commands:".toList] := by
      refine isCalm_of_isCodeLine ?_
      simp only [List.forall_mem_cons, List.not_mem_nil, false_imp_iff, implies_true, and_true]
      exact ⟨⟨rfl, rfl⟩, ⟨rfl, rfl⟩, ⟨rfl, rfl⟩, ⟨rfl, rfl⟩⟩
    have whole := EndsOpen.append headed
      (EndsOpen.write line quotable.nonempty other own.check.isPlainCode get)
    rw [List.flatMap_cons, Text.linesBack_append, linesBack_writeOne_of_isPrintable own]
    simpa using whole

/-! ## Executors and tests -/

theorem kind_runBy
    {executor : Executor}
    {name : Text}
    {cleanup : Option Text}
    (command : executor.kind = .command name cleanup)
    (own : Text) :
    executor.runBy own = { executor with kind := .command own cleanup } := by
  rw [Executor.runBy, command]

/-- A printable executor stays so with another word for its interpreter. -/
theorem isPrintable_runBy
    {executor : Executor}
    (printable : executor.IsPrintable)
    {own : Text}
    (interpreter : IsInterpreter own)
    (notPrompt : own.map Char.toLower ≠ "cmd".toList) :
    (executor.runBy own).IsPrintable := by
  cases command : executor.kind with
  | manual => rwa [Executor.runBy, command]
  | command name cleanup =>
    rw [Executor.IsPrintable, command] at printable
    rw [kind_runBy command]
    exact ⟨⟨interpreter, notPrompt⟩, printable.2⟩

section Renamed

variable {name own : Text} {cleanup dependencyExecutor : Option Text}

/-- The dependencies are run by a name that can be printed, their own or that of the test. -/
theorem isPrintedName_dependencyInterpreter
    (command : test.executor.kind = .command name cleanup)
    (printed : ∀ name ∈ own :: dependencyExecutor.toList, IsPrintedName name) :
    IsPrintedName (test.runBy own dependencyExecutor).dependencyInterpreter := by
  cases dependencyExecutor with
  | some other => exact printed other (by simp)
  | none =>
    have named : (test.runBy own none).dependencyInterpreter = own := by
      change (test.executor.runBy own).name = own
      rw [kind_runBy command]
      rfl
    rw [named]
    exact printed own (List.mem_cons_self ..)

/-- With a name on its page that is no word, the lines of a test leave the last fence open. -/
theorem endsOpen_ownLines
    (printable : test.IsPrintable)
    (command : test.executor.kind = .command name cleanup)
    (printed : ∀ name ∈ own :: dependencyExecutor.toList, IsPrintedName name)
    (other : ∃ name ∈ (test.runBy own dependencyExecutor).interpreters, ¬ IsInterpreter name) :
    EndsOpen (test.runBy own dependencyExecutor).ownLines := by
  have executor := kind_runBy command own
  have quotable := (printed own (List.mem_cons_self ..)).toIsQuotable
  have dependent := (isPrintedName_dependencyInterpreter command printed).toIsQuotable
  have above : HasKinds LineKind.IsCalm (linesBack (textsAbove test)) :=
    (isBlock_textsAbove printable).isCalm (by decide)
  have split : (test.runBy own dependencyExecutor).ownLines =
      linesBack (textsAbove test) ++ (linesBack (ExecutorBlock.write (test.executor.runBy own)) ++
        linesBelow (test.runBy own dependencyExecutor)) := ownLines_eq _
  rw [split]
  refine EndsOpen.append above ?_
  by_cases word : IsInterpreter own
  · -- The executor's blocks are closed, so it is the dependencies that are shifted.
    have notPrompt := (printed own (List.mem_cons_self ..)).notPrompt
    have block := ExecutorBlock.isBlock_write (isPrintable_runBy printable.executor word notPrompt)
    have calm := block.isCalm (by decide)
    rw [← Text.linesBack_eq_linesOf block.unreturned] at calm
    refine EndsOpen.append calm ?_
    have named : (test.runBy own dependencyExecutor).executor.name = own := by
      change (test.executor.runBy own).name = own
      rw [executor]
      rfl
    rcases other with ⟨bad, member, unlike⟩
    rw [AtomicTest.interpreters, named, List.mem_cons] at member
    rcases member with rfl | later
    · exact absurd word unlike
    · by_cases empty : (test.runBy own dependencyExecutor).dependencies = []
      · rw [if_pos empty] at later
        cases later
      · rw [if_neg empty, List.mem_singleton] at later
        exact endsOpen_linesBelow dependent (later ▸ unlike) empty printable.dependencies
  · have code := printable.executor
    rw [Executor.IsPrintable, command] at code
    have heading := @hasKind_command own quotable test.executor.elevated
    have calm : HasKinds LineKind.IsCalm
        ["#### Attack Commands: Run with `".toList ++ own ++ "`!".toList ++
          ExecutorBlock.elevationMark test.executor.elevated, []] :=
      HasKinds.cons unclosed_of_isCalm heading ⟨rfl, rfl⟩ (isCalm_cons_blank HasKinds.nil)
    have shifted := isShifted_writeCleanup quotable.line
      (fun text present => (code.2.2 text present).1.isPlainCode)
      (isShifted_linesBelow dependent.line printable.dependencies)
    have whole := EndsOpen.append calm
      (EndsOpen.write quotable.line quotable.nonempty word code.2.1.isPlainCode shifted)
    rw [executor, ExecutorBlock.linesBack_write_command rfl quotable.line, language_eq_self word]
    simpa using whole

/-! ## Names that are left out -/

theorem dependencyInterpreter_withoutIdleName (nonempty : test.dependencies ≠ []) :
    test.withoutIdleName.dependencyInterpreter = test.dependencyInterpreter := by
  rw [AtomicTest.dependencyInterpreter, AtomicTest.withoutIdleName,
    AtomicTest.dependencyInterpreter]
  cases own : test.dependencyExecutor with
  | none => rfl
  | some other =>
    by_cases same : other = test.executor.name <;> simp [Option.filter, nonempty, same]

/-- A page does not show a name that is left out. -/
theorem write_withoutIdleName (technique : Technique) :
    write (technique.mapTests AtomicTest.withoutIdleName) = write technique := by
  refine @write_mapTests AtomicTest.withoutIdleName (fun number test => ?_) (fun _ => rfl) technique
  have dependencies : writeDependencies test.withoutIdleName = writeDependencies test := by
    have kept : test.withoutIdleName.dependencies = test.dependencies := rfl
    rw [writeDependencies, writeDependencies, kept]
    by_cases empty : test.dependencies = []
    · simp [empty]
    · rw [dependencyInterpreter_withoutIdleName empty]
  rw [writeTest, dependencies, writeTest]
  rfl

theorem isPrintable_runBy_withoutIdleName
    (printable : test.IsPrintable)
    (command : test.executor.kind = .command name cleanup)
    (printed : ∀ name ∈ own :: dependencyExecutor.toList, IsPrintedName name)
    (words : ∀ name ∈ (test.runBy own dependencyExecutor).interpreters, IsInterpreter name) :
    (test.runBy own dependencyExecutor).withoutIdleName.IsPrintable := by
  have notPrompt := (printed own (List.mem_cons_self ..)).notPrompt
  have named : (test.runBy own dependencyExecutor).executor.name = own := by
    change (test.executor.runBy own).name = own
    rw [kind_runBy command]
    rfl
  have interpreter : IsInterpreter own := by
    apply words
    rw [AtomicTest.interpreters, named]
    exact List.mem_cons_self ..
  exact {
    name := printable.name
    named := printable.named
    description := printable.description
    platforms := printable.platforms
    executor := isPrintable_runBy printable.executor interpreter notPrompt
    arguments := printable.arguments
    distinct := printable.distinct
    dependencies := printable.dependencies
    dependencyExecutor := by
      intro other present
      rcases Option.mem_filter_iff.mp present with ⟨given, kept⟩
      have different : test.dependencies ≠ [] ∧
          other ≠ (test.runBy own dependencyExecutor).executor.name := of_decide_eq_true kept
      refine ⟨words other ?_, different.2, different.1⟩
      have ran : (test.runBy own dependencyExecutor).dependencyInterpreter = other := by
        rw [AtomicTest.dependencyInterpreter, show _ = some other from given]
        rfl
      have dependent : (test.runBy own dependencyExecutor).dependencies ≠ [] := different.1
      rw [AtomicTest.interpreters, if_neg dependent, ran]
      simp
    guid := printable.guid }

theorem commands_runBy_withoutIdleName
    (command : test.executor.kind = .command name cleanup) :
    (test.runBy own dependencyExecutor).withoutIdleName.commands = test.commands := by
  have executor : (test.executor.runBy own).commands = test.executor.commands := by
    rw [kind_runBy command, Executor.commands, Executor.commands, command]
  change (test.executor.runBy own).commands ++ _ = _
  rw [executor]
  rfl

/-! ## Pages -/

variable {technique : Technique}

/-- With words for names, a page gives back all but a name that says nothing. -/
theorem read_write_runBy_of_words
    (wellFormed : (technique.withTest test).IsWellFormed)
    (command : test.executor.kind = .command name cleanup)
    (printed : ∀ name ∈ own :: dependencyExecutor.toList, IsPrintedName name)
    (words : ∀ name ∈ (test.runBy own dependencyExecutor).interpreters, IsInterpreter name) :
    read (write (technique.withTest (test.runBy own dependencyExecutor))) =
      .ok (technique.withTest (test.runBy own dependencyExecutor).withoutIdleName).inPageShape := by
  have lone := List.mem_singleton_self test
  have written := write_withoutIdleName (technique.withTest (test.runBy own dependencyExecutor))
  have decoded : ∀ text ∈ (test.runBy own dependencyExecutor).withoutIdleName.commands,
      Html.decode text = text := by
    rw [commands_runBy_withoutIdleName command]
    exact wellFormed.decoded test lone
  have whole : (technique.withTest
      (test.runBy own dependencyExecutor).withoutIdleName).IsPrintable := {
    identifier := wellFormed.identifier
    name := wellFormed.name
    named := wellFormed.named
    description := wellFormed.description
    tests := by
      intro other member
      rw [List.mem_singleton.mp member]
      exact isPrintable_runBy_withoutIdleName (wellFormed.tests test lone) command printed words }
  have shape : (technique.withTest (test.runBy own dependencyExecutor).withoutIdleName).reread =
      (technique.withTest (test.runBy own dependencyExecutor).withoutIdleName).inPageShape := by
    have same := reread_eq_inPageShape decoded
    rw [Technique.reread, Technique.inPageShape, Technique.mapTests, Technique.mapTests,
      Technique.withTest, List.map_singleton, List.map_singleton, same]
  rw [← written, ← shape]
  exact read_write_reread whole

/-- With a name that is no word, the last fence of a page has no end. -/
theorem read_write_runBy_of_other
    (wellFormed : (technique.withTest test).IsWellFormed)
    (command : test.executor.kind = .command name cleanup)
    (printed : ∀ name ∈ own :: dependencyExecutor.toList, IsPrintedName name)
    (other : ∃ name ∈ (test.runBy own dependencyExecutor).interpreters, ¬ IsInterpreter name) :
    read (write (technique.withTest (test.runBy own dependencyExecutor))) =
      .error (.unclosedFence
        ((write (technique.withTest (test.runBy own dependencyExecutor))).lines.length - 2)) := by
  have ends := endsOpen_ownLines (wellFormed.tests test (List.mem_singleton_self test)) command
    printed other
  have recast : test.runBy own dependencyExecutor =
      test.recast (test.executor.runBy own) test.dependencies dependencyExecutor := rfl
  rcases exists_read_write_recast wellFormed.toIsPrintable recast ends.free with
    ⟨number, around, -, count, reads⟩
  rcases ends.unclosed number with ⟨line, found, last⟩
  have bottom : line =
      (write (technique.withTest (test.runBy own dependencyExecutor))).lines.length - 2 := by
    omega
  rw [reads, Section.read, found, bottom]
  rfl

/--
A well-formed test with a command is given another interpreter, and perhaps another one
for its dependencies.  If the names on its page are words, it is read back as it is, but
for a name of the dependencies' interpreter that says nothing.  If one of them is no
word, the last fence on the page has no end, and nothing is read.
-/
theorem read_write_runBy
    (wellFormed : (technique.withTest test).IsWellFormed)
    (command : test.executor.kind = .command name cleanup)
    (printed : ∀ name ∈ own :: dependencyExecutor.toList, IsPrintedName name) :
    ((∀ name ∈ (test.runBy own dependencyExecutor).interpreters, IsInterpreter name) →
        read (write (technique.withTest (test.runBy own dependencyExecutor))) =
          .ok (technique.withTest
            (test.runBy own dependencyExecutor).withoutIdleName).inPageShape) ∧
      ((∃ name ∈ (test.runBy own dependencyExecutor).interpreters, ¬ IsInterpreter name) →
        read (write (technique.withTest (test.runBy own dependencyExecutor))) =
          .error (.unclosedFence
            ((write (technique.withTest (test.runBy own dependencyExecutor))).lines.length -
              2))) :=
  ⟨read_write_runBy_of_words wellFormed command printed,
    read_write_runBy_of_other wellFormed command printed⟩

end Renamed

theorem isWellFormed_toolTest : (shellBase.withTest toolTest).IsWellFormed where
  toIsPrintable := isPrintable_toolTest
  decoded := by
    intro test member command inside
    have commands : toolTest.commands = [plainCommand, plainCommand] := rfl
    rw [List.mem_singleton.mp member, commands] at inside
    have same : command = plainCommand := by simpa using inside
    rw [same]
    exact Html.decode_eq_self _ (by decide)

theorem isPrintedName_bash : IsPrintedName "bash".toList :=
  ⟨⟨⟨by decide, by decide⟩, by decide, by decide⟩, by decide, by decide⟩

theorem isPrintedName_compiler : IsPrintedName "c++".toList :=
  ⟨⟨⟨by decide, by decide⟩, by decide, by decide⟩, by decide, by decide⟩

theorem not_isInterpreter_compiler : ¬ IsInterpreter "c++".toList :=
  fun interpreter => absurd (interpreter.word '+' (by decide)) (by decide)

theorem read_write_runBy_compiler :
    (shellBase.withTest toolTest).IsWellFormed ∧
      (∀ name ∈ ["bash".toList, "c++".toList], IsPrintedName name) ∧
      read (write (shellBase.withTest (toolTest.runBy "bash".toList none))) =
        .ok (shellBase.withTest
          (toolTest.runBy "bash".toList none).withoutIdleName).inPageShape ∧
      read (write (shellBase.withTest (toolTest.runBy "bash".toList (some "c++".toList)))) =
        .error (.unclosedFence
          ((write (shellBase.withTest
            (toolTest.runBy "bash".toList (some "c++".toList)))).lines.length - 2)) := by
  have printed : ∀ name ∈ ["bash".toList, "c++".toList], IsPrintedName name :=
    List.forall_mem_cons.mpr ⟨isPrintedName_bash, List.forall_mem_singleton.mpr
      isPrintedName_compiler⟩
  have own : ∀ name ∈ ["bash".toList], IsPrintedName name :=
    List.forall_mem_singleton.mpr isPrintedName_bash
  have bash : IsInterpreter "bash".toList := isInterpreter_of_all (by decide) (by decide)
  refine ⟨isWellFormed_toolTest, printed, ?_, ?_⟩
  · refine (read_write_runBy isWellFormed_toolTest rfl own).1 ?_
    have names : (toolTest.runBy "bash".toList none).interpreters =
        ["bash".toList, "bash".toList] := rfl
    rw [names]
    exact List.forall_mem_cons.mpr ⟨bash, List.forall_mem_singleton.mpr bash⟩
  · refine (read_write_runBy isWellFormed_toolTest rfl printed).2 ?_
    exact ⟨"c++".toList, by decide, not_isInterpreter_compiler⟩

/-- Not every name that is printed lets its page be read. -/
theorem not_forall_names_survive :
    ¬ ∀ (technique : Technique) (test : AtomicTest) (name own : Text) (cleanup : Option Text),
      (technique.withTest test).IsWellFormed → test.executor.kind = .command name cleanup →
      IsPrintedName own →
      ∃ back made, read (write (technique.withTest (test.runBy own none))) = .ok back ∧
        back.tests = [made] ∧ made.executor.name = own := by
  intro survives
  rcases survives shellBase toolTest _ _ _ isWellFormed_toolTest rfl isPrintedName_compiler with
    ⟨back, made, reads, -, -⟩
  have unread := @read_write_runBy_of_other toolTest "sh".toList "c++".toList none none shellBase
    isWellFormed_toolTest rfl (List.forall_mem_singleton.mpr isPrintedName_compiler)
    ⟨"c++".toList, by decide, not_isInterpreter_compiler⟩
  rw [unread] at reads
  cases reads

end Page

end TechniquePages
