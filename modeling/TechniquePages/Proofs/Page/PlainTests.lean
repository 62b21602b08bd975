import TechniquePages.Proofs.Page.FencedCode
import TechniquePages.Proofs.Page.Rewriting

/-!
# Tests of plain texts

Which tests make no bad section of their own lines is said here of their texts.
Above the executor a text must be still: scanned by itself it leaves no fence open,
opens no test and heads no executor.  Below it a text must be calm, and may head
executors.  Commands must have no line that closes a fence or opens a test, and
the names of interpreters must be words, since they are the languages of fences.

A page gives texts of other kinds too: references in commands and cells are
replaced, and trimming a text takes the indent off its first line.  So a page that
is read need not be plain; but if it is, all its tests are kept.
-/

namespace TechniquePages

namespace Page

/-! ## Texts -/

/-- The kind leaves no fence open and opens no test. -/
def LineKind.IsCalm (kind : LineKind) : Prop :=
  kind.isUnclosed = false ∧ kind.testName? = none

/-- The kind is calm and heads no executor. -/
def LineKind.IsStill (kind : LineKind) : Prop :=
  kind.IsCalm ∧ ExecutorBlock.heading? kind = none

instance (kind : LineKind) : Decidable kind.IsCalm :=
  inferInstanceAs (Decidable (_ ∧ _))

instance (kind : LineKind) : Decidable kind.IsStill :=
  inferInstanceAs (Decidable (_ ∧ _))

/-- Scanned by itself, the text leaves no fence open and opens no test. -/
def IsCalmText (text : Text) : Prop :=
  ∀ line ∈ scan text, line.kind.IsCalm

/-- Scanned by itself, the text leaves no fence open, opens no test and heads no executor. -/
def IsStillText (text : Text) : Prop :=
  ∀ line ∈ scan text, line.kind.IsStill

/-- No line of the command closes a fence or opens a test. -/
def IsPlainCode (text : Text) : Prop :=
  ∀ line ∈ text.trim.lines, IsCodeLine line

instance (text : Text) : Decidable (IsCalmText text) :=
  inferInstanceAs (Decidable (∀ line ∈ _, _))

instance (text : Text) : Decidable (IsStillText text) :=
  inferInstanceAs (Decidable (∀ line ∈ _, _))

instance (text : Text) : Decidable (IsPlainCode text) :=
  inferInstanceAs (Decidable (∀ line ∈ _, _))

end Page

open Page

/-- Calm steps, or plain commands for an interpreter whose name is a word. -/
def Executor.IsPlain (executor : Executor) : Prop :=
  match executor.kind with
  | .manual => IsCalmText executor.procedure.trim
  | .command name cleanup =>
    IsInterpreter name ∧ IsPlainCode executor.procedure ∧ ∀ text ∈ cleanup, IsPlainCode text

/-- A calm description, which may have many lines, and plain commands. -/
structure Dependency.IsPlain (dependency : Dependency) : Prop where
  description : IsCalmText ("##### Description: ".toList ++ dependency.description.trim)
  check : IsPlainCode dependency.check
  get : ∀ text ∈ dependency.get, IsPlainCode text

/-- A test whose texts stay within their part of the page. -/
structure AtomicTest.IsPlain (test : AtomicTest) : Prop where
  description : IsStillText test.description.trim
  rows : ∀ argument ∈ test.arguments.entries, IsStillText (InputsTable.row argument)
  executor : test.executor.IsPlain
  interpreter : test.dependencies ≠ [] → IsInterpreter test.dependencyInterpreter
  dependencies : ∀ dependency ∈ test.dependencies, dependency.IsPlain

/-- Named tests of plain texts, below a description that opens no test. -/
structure Technique.IsPlain (technique : Technique) : Prop where
  named : technique.IsNamed
  description : ∀ text ∈ technique.description, ∀ line ∈ text.trim.lines,
    isTestHeading line = false
  tests : ∀ test ∈ technique.tests, test.IsPlain

namespace Page

open Text (linesBack IsLine)

/-! ## Lines of texts -/

theorem unclosed_of_isCalm (kind : LineKind) (calm : kind.IsCalm) : kind.isUnclosed = false :=
  calm.1

theorem unclosed_of_isStill (kind : LineKind) (still : kind.IsStill) : kind.isUnclosed = false :=
  still.1.1

/-- Blocks in which no test begins are calm. -/
theorem IsBlock.isCalm
    {parts : List Part}
    {texts : List Text}
    (block : IsBlock parts texts)
    (test : Part.test ∉ parts) :
    HasKinds LineKind.IsCalm texts :=
  fun line member => ⟨block.closed line member, block.silent asksFor_testName test 1 line member⟩

/-- Blocks in which no test and no executor begin are still. -/
theorem IsBlock.isStill
    {parts : List Part}
    {texts : List Text}
    (block : IsBlock parts texts)
    (test : Part.test ∉ parts)
    (executor : Part.executor ∉ parts) :
    HasKinds LineKind.IsStill texts :=
  fun line member => ⟨block.isCalm test line member,
    block.silent asksFor_executor executor 1 line member⟩

/-- What is known of a trimmed text is known of the lines that it is read back as. -/
theorem hasKinds_linesBack_trim
    {property : LineKind → Prop}
    (prose : property .prose)
    {text : Text}
    (known : ∀ line ∈ scan text.trim, property line.kind) :
    HasKinds property (linesBack [text.trim]) := by
  by_cases blank : text.trim = []
  · have scanned : scanFrom 1 none (linesBack [text.trim]) = [⟨1, [], .prose⟩] := by
      rw [blank]
      exact hasKind_nil.scanFrom_cons 1 []
    simpa [HasKinds, scanned] using prose
  · rw [Text.linesBack_cons_of_trimmed (Text.isTrimmed_trim text) blank, Text.linesBack_nil,
      List.append_nil]
    exact known

theorem IsPlainCode.isCodeLine_of_mem
    {text line : Text}
    (plain : IsPlainCode text)
    (member : line ∈ linesBack [text.trim]) :
    IsCodeLine line := by
  by_cases blank : text.trim = []
  · rw [blank] at member
    rw [List.mem_singleton.mp member]
    exact ⟨rfl, rfl⟩
  · rw [Text.linesBack_cons_of_trimmed (Text.isTrimmed_trim text) blank, Text.linesBack_nil,
      List.append_nil] at member
    exact plain line member

/-! ## Commands -/

section Commands

variable {language content : Text}

theorem isLine_fence (line : IsLine language) : IsLine ("```".toList ++ language) := by
  refine ⟨(Text.isTrimmed_iff _).mpr ⟨?_, ?_⟩, ?_⟩
  · intro character first
    have mark : '\x60' = character := by simpa using first
    exact mark ▸ (by decide)
  · intro character last
    by_cases empty : language = []
    · have mark : '\x60' = character := by simpa [empty] using last
      exact mark ▸ (by decide)
    · rw [List.getLast?_append_of_ne_nil _ empty] at last
      exact ((Text.isTrimmed_iff _).mp line.trimmed).2 character last
  · rw [List.mem_append, not_or]
    exact ⟨by decide, line.single⟩

theorem linesBack_write
    (line : IsLine language)
    (content : Text) :
    linesBack (FencedBlock.write language content) =
      ("```".toList ++ language) :: (linesBack [content.trim] ++ ["```".toList]) := by
  have fence := isLine_fence line
  have split : FencedBlock.write language content =
      ("```".toList ++ language) :: ([content.trim] ++ ["```".toList]) := rfl
  rw [split, Text.linesBack_cons_of_single fence.single fence.trimmed.unreturned,
    Text.linesBack_append]
  rfl

variable (word : ∀ character ∈ language, Marker.isLanguageCharacter character = true)
  (plain : IsPlainCode content)

include word plain

/-- A written command has no kinds but those of fences and code. -/
theorem hasKinds_write
    {property : LineKind → Prop}
    (own : property (.fenceOpen language true) ∧ property .code ∧ property .fenceClose) :
    HasKinds property (linesBack (FencedBlock.write language content)) := by
  rw [linesBack_write (isLine_of_word word)]
  exact HasKinds.fenced (fenceLanguage?_append word) (fun _ => plain.isCodeLine_of_mem)
    isClosingFence_fence own

theorem isCalm_write :
    HasKinds LineKind.IsCalm (linesBack (FencedBlock.write language content)) :=
  hasKinds_write word plain ⟨⟨rfl, rfl⟩, ⟨rfl, rfl⟩, ⟨rfl, rfl⟩⟩

/-- A written command starts a block, wherever it stands. -/
theorem exists_isBlockStart_write
    (number : Nat)
    (more : List Text) :
    ∃ line ∈ scanFrom number none (linesBack (FencedBlock.write language content) ++ more),
      line.kind.IsBlockStart := by
  have scanned := scanFrom_block number more (fenceLanguage?_append word)
    (fun _ => plain.isCodeLine_of_mem) isClosingFence_fence
  rw [linesBack_write (isLine_of_word word), List.cons_append, List.append_assoc]
  rw [show ["```".toList] ++ more = "```".toList :: more from rfl, scanned]
  exact ⟨_, List.mem_cons_self .., language, rfl⟩

end Commands

/-! ## Executors -/

theorem isCalm_cons_blank
    {texts : List Text}
    (calm : HasKinds LineKind.IsCalm texts) :
    HasKinds LineKind.IsCalm ([] :: texts) :=
  calm.cons unclosed_of_isCalm hasKind_nil ⟨rfl, rfl⟩

namespace ExecutorBlock

/-- A written cleanup is a block below its heading, or nothing. -/
theorem linesBack_writeCleanup_cases
    (language : Text)
    (cleanup : Option Text) :
    linesBack (writeCleanup language cleanup) = [] ∨
      ∃ text ∈ cleanup, linesBack (writeCleanup language cleanup) =
        [] :: "#### Cleanup Commands:".toList :: linesBack (FencedBlock.write language text) := by
  cases cleanup with
  | none => exact Or.inl rfl
  | some text =>
    rw [writeCleanup]
    split
    · exact Or.inl rfl
    · refine Or.inr ⟨text, rfl, ?_⟩
      rw [Text.linesBack_cons_of_single (by simp) (by simp),
        Text.linesBack_cons_of_single (by decide) (by decide)]

theorem isCalm_writeCleanup
    {language : Text}
    (word : ∀ character ∈ language, Marker.isLanguageCharacter character = true)
    {cleanup : Option Text}
    (plain : ∀ text ∈ cleanup, IsPlainCode text) :
    HasKinds LineKind.IsCalm (linesBack (writeCleanup language cleanup)) := by
  rcases linesBack_writeCleanup_cases language cleanup with empty | ⟨text, present, written⟩
  · rw [empty]
    exact HasKinds.nil
  · rw [written]
    exact isCalm_cons_blank (HasKinds.cons unclosed_of_isCalm hasKind_cleanup ⟨rfl, rfl⟩
      (isCalm_write word (plain text present)))

/--
A heading of an executor, with calm lines below it in which a block starts if the
heading asks for a command.
-/
structure IsOpened (heading : Text) (kind : LineKind) (below : List Text) : Prop where
  known : HasKind heading kind
  calm : HasKinds LineKind.IsCalm below
  asks : (∃ elevated, kind = .manualHeading elevated) ∨
    (∃ name elevated, kind = .commandHeading name elevated) ∧
      ∀ number more, ∃ line ∈ scanFrom number none (below ++ more), line.kind.IsBlockStart

theorem IsOpened.isCalm_kind
    {heading : Text}
    {kind : LineKind}
    {below : List Text}
    (opened : IsOpened heading kind below) :
    kind.IsCalm := by
  rcases opened.asks with ⟨elevated, rfl⟩ | ⟨⟨name, elevated, rfl⟩, -⟩ <;> exact ⟨rfl, rfl⟩

theorem IsOpened.append
    {heading : Text}
    {kind : LineKind}
    {below later : List Text}
    (opened : IsOpened heading kind below)
    (calm : HasKinds LineKind.IsCalm later) :
    IsOpened heading kind (below ++ later) := by
  refine ⟨opened.known, opened.calm.append unclosed_of_isCalm calm, ?_⟩
  rcases opened.asks with manual | ⟨command, starts⟩
  · exact Or.inl manual
  · refine Or.inr ⟨command, fun number more => ?_⟩
    rw [List.append_assoc]
    exact starts number _

theorem isOpened_manual
    {steps : Text}
    (calm : IsCalmText steps.trim)
    (elevated : Bool) :
    IsOpened ("#### Run it with these steps!".toList ++ elevationMark elevated)
      (.manualHeading elevated) ([] :: linesBack [steps.trim]) where
  known := hasKind_manual elevated
  calm := isCalm_cons_blank (hasKinds_linesBack_trim ⟨rfl, rfl⟩ calm)
  asks := Or.inl ⟨_, rfl⟩

theorem isOpened_command
    {name command : Text}
    {cleanup : Option Text}
    (interpreter : IsInterpreter name)
    (plain : IsPlainCode command)
    (cleans : ∀ text ∈ cleanup, IsPlainCode text)
    (elevated : Bool) :
    IsOpened
      ("#### Attack Commands: Run with `".toList ++ name ++ "`!".toList ++ elevationMark elevated)
      (.commandHeading name elevated)
      ([] :: (linesBack (FencedBlock.write (language name) command) ++
        linesBack (writeCleanup (language name) cleanup))) where
  known := hasKind_command interpreter.isQuotable elevated
  calm :=
    have word := language_word interpreter
    isCalm_cons_blank ((isCalm_write word plain).append unclosed_of_isCalm
      (isCalm_writeCleanup word cleans))
  asks := by
    refine Or.inr ⟨⟨_, _, rfl⟩, fun number more => ?_⟩
    rw [List.cons_append, hasKind_nil.scanFrom_cons, List.append_assoc]
    rcases exists_isBlockStart_write (language_word interpreter) plain (number + 1) _ with
      ⟨line, member, starts⟩
    exact ⟨line, List.mem_cons_of_mem _ member, starts⟩

theorem linesBack_write_command
    {executor : Executor}
    {name : Text}
    {cleanup : Option Text}
    (kind : executor.kind = .command name cleanup)
    (line : IsLine name) :
    linesBack (write executor) =
      ("#### Attack Commands: Run with `".toList ++ name ++ "`!".toList ++
          elevationMark executor.elevated) ::
        [] :: (linesBack (FencedBlock.write (language name) executor.procedure) ++
          linesBack (writeCleanup (language name) cleanup)) := by
  have written : write executor =
      ("#### Attack Commands: Run with `".toList ++ name ++ "`!".toList ++
          elevationMark executor.elevated) ::
        [] :: (FencedBlock.write (language name) executor.procedure ++
          writeCleanup (language name) cleanup) := by
    rw [write, kind]
  rw [written, Text.linesBack_cons_of_single (newline_not_mem_commandHeading line _)
      (unreturned_commandHeading line _),
    Text.linesBack_cons_of_single (by simp) (by simp), Text.linesBack_append]

/-- The lines of a plain executor are those of an executor that is opened. -/
theorem exists_isOpened_write
    {executor : Executor}
    (plain : executor.IsPlain) :
    ∃ heading kind below, linesBack (write executor) = heading :: below ∧
      IsOpened heading kind below := by
  cases kind : executor.kind with
  | manual =>
    have steps : IsCalmText executor.procedure.trim := by simpa [Executor.IsPlain, kind] using plain
    have written : write executor =
        ["#### Run it with these steps!".toList ++ elevationMark executor.elevated] ++ [[]] ++
          [executor.procedure.trim] := by
      rw [write, kind]
      rfl
    have line : linesBack ["#### Run it with these steps!".toList ++
          elevationMark executor.elevated] =
        ["#### Run it with these steps!".toList ++ elevationMark executor.elevated] := by
      cases executor.elevated <;> rfl
    refine ⟨_, _, _, ?_, isOpened_manual steps executor.elevated⟩
    rw [written, Text.linesBack_append, Text.linesBack_append, line]
    rfl
  | command name cleanup =>
    have parts : IsInterpreter name ∧ IsPlainCode executor.procedure ∧
        ∀ text ∈ cleanup, IsPlainCode text := by simpa [Executor.IsPlain, kind] using plain
    rcases parts with ⟨interpreter, command, cleans⟩
    refine ⟨_, _, _, ?_, isOpened_command interpreter command cleans executor.elevated⟩
    rw [linesBack_write_command kind interpreter.isLine]

end ExecutorBlock

/-! ## Dependencies -/

namespace DependencyBlock

/-- A written get command is a block below its heading, or nothing. -/
theorem linesBack_writeGet_cases
    (language : Text)
    (get : Option Text) :
    linesBack (writeGet language get) = [] ∨
      ∃ text ∈ get, linesBack (writeGet language get) =
        "##### Get Prereq Commands:".toList :: linesBack (FencedBlock.write language text) := by
  cases get with
  | none => exact Or.inl rfl
  | some text =>
    rw [writeGet]
    split
    · exact Or.inl rfl
    · refine Or.inr ⟨text, rfl, ?_⟩
      rw [Text.linesBack_cons_of_single (by decide) (by decide)]

/-- A written get command has no kinds but those of its heading and its block. -/
theorem hasKinds_writeGet
    {property : LineKind → Prop}
    (closed : ∀ kind, property kind → kind.isUnclosed = false)
    (heading : property .getHeading)
    {language : Text}
    {get : Option Text}
    (block : ∀ text ∈ get, HasKinds property (linesBack (FencedBlock.write language text))) :
    HasKinds property (linesBack (writeGet language get)) := by
  rcases linesBack_writeGet_cases language get with empty | ⟨text, present, written⟩
  · rw [empty]
    exact HasKinds.nil
  · rw [written]
    exact HasKinds.cons closed hasKind_get heading (block text present)

/-- The description of a dependency may have many lines; its commands stand below them. -/
theorem linesBack_writeOne
    (language : Text)
    (dependency : Dependency) :
    linesBack (writeOne language dependency) =
      linesBack ["##### Description: ".toList ++ dependency.description.trim] ++
        "##### Check Prereq Commands:".toList ::
          (linesBack (FencedBlock.write language dependency.check) ++
            linesBack (writeGet language dependency.get)) := by
  have split : writeOne language dependency =
      ["##### Description: ".toList ++ dependency.description.trim] ++
        "##### Check Prereq Commands:".toList ::
          (FencedBlock.write language dependency.check ++ writeGet language dependency.get) := rfl
  have check : linesBack ("##### Check Prereq Commands:".toList ::
        (FencedBlock.write language dependency.check ++ writeGet language dependency.get)) =
      "##### Check Prereq Commands:".toList ::
        (linesBack (FencedBlock.write language dependency.check) ++
          linesBack (writeGet language dependency.get)) := by
    rw [Text.linesBack_cons_of_single (by decide) (by decide), Text.linesBack_append]
  rw [split, Text.linesBack_append, check]

section One

variable {language : Text}
  (word : ∀ character ∈ language, Marker.isLanguageCharacter character = true)

include word

theorem isCalm_writeGet
    {get : Option Text}
    (plain : ∀ text ∈ get, IsPlainCode text) :
    HasKinds LineKind.IsCalm (linesBack (writeGet language get)) :=
  hasKinds_writeGet unclosed_of_isCalm ⟨rfl, rfl⟩ fun text present =>
    isCalm_write word (plain text present)

theorem isCalm_writeOne
    {dependency : Dependency}
    (plain : dependency.IsPlain) :
    HasKinds LineKind.IsCalm (linesBack (writeOne language dependency)) := by
  have described : linesBack ["##### Description: ".toList ++ dependency.description.trim] =
      Text.lines ("##### Description: ".toList ++ dependency.description.trim) := by
    by_cases blank : dependency.description.trim = []
    · rw [blank]
      rfl
    · have trimmed : Text.IsTrimmed
          ("##### Description: ".toList ++ dependency.description.trim) := by
        have solid := (Text.isTrimmed_iff _).mp (Text.isTrimmed_trim dependency.description)
        refine (Text.isTrimmed_iff _).mpr ⟨?_, ?_⟩
        · intro character first
          have hash : '#' = character := by simpa using first
          exact hash ▸ (by decide)
        · intro character last
          rw [List.getLast?_append_of_ne_nil _ blank] at last
          exact solid.2 character last
      rw [Text.linesBack_cons_of_trimmed trimmed (by simp), Text.linesBack_nil, List.append_nil]
  rw [linesBack_writeOne, described]
  have description : HasKinds LineKind.IsCalm
      (Text.lines ("##### Description: ".toList ++ dependency.description.trim)) :=
    plain.description
  exact description.append unclosed_of_isCalm
    (HasKinds.cons unclosed_of_isCalm hasKind_check ⟨rfl, rfl⟩
      ((isCalm_write word plain.check).append unclosed_of_isCalm
        (isCalm_writeGet word plain.get)))

theorem isCalm_flatMap
    {dependencies : List Dependency}
    (plain : ∀ dependency ∈ dependencies, dependency.IsPlain) :
    HasKinds LineKind.IsCalm (linesBack (dependencies.flatMap (writeOne language))) := by
  rw [Text.linesBack_flatMap]
  exact HasKinds.flatMap unclosed_of_isCalm fun dependency member =>
    isCalm_writeOne word (plain dependency member)

end One

theorem linesBack_writeDependencies
    {test : AtomicTest}
    (line : IsLine test.dependencyInterpreter)
    (nonempty : test.dependencies ≠ []) :
    linesBack (writeDependencies test) =
      ("#### Dependencies:  Run with `".toList ++ test.dependencyInterpreter ++ "`!".toList) ::
        (linesBack (test.dependencies.flatMap
          (writeOne (ExecutorBlock.language test.dependencyInterpreter))) ++ [[]]) := by
  rw [writeDependencies, if_neg (by simpa using nonempty), write, List.cons_append,
    Text.linesBack_cons_of_single (newline_not_mem_heading line) (unreturned_heading line),
    Text.linesBack_append]
  rfl

theorem isCalm_writeDependencies
    {test : AtomicTest}
    (plain : test.IsPlain) :
    HasKinds LineKind.IsCalm (linesBack (writeDependencies test)) := by
  by_cases empty : test.dependencies = []
  · rw [writeDependencies, if_pos (by simp [empty])]
    exact HasKinds.nil
  · have interpreter := plain.interpreter empty
    have dependencies := isCalm_flatMap (language_word interpreter) plain.dependencies
    rw [linesBack_writeDependencies interpreter.isLine empty]
    exact HasKinds.cons unclosed_of_isCalm (hasKind_dependencies interpreter.isQuotable)
      ⟨rfl, rfl⟩ (dependencies.append unclosed_of_isCalm (isCalm_cons_blank HasKinds.nil))

end DependencyBlock

/-! ## Above the executor -/

theorem isStill_writeInputs
    {test : AtomicTest}
    (plain : test.IsPlain) :
    HasKinds LineKind.IsStill (linesBack (writeInputs test.arguments)) := by
  have blank : HasKinds LineKind.IsStill [[]] :=
    HasKinds.nil.cons unclosed_of_isStill hasKind_nil ⟨⟨rfl, rfl⟩, rfl⟩
  have rows : ∀ entries : List Argument,
      (∀ argument ∈ entries, IsStillText (InputsTable.row argument)) →
        HasKinds LineKind.IsStill (linesBack (entries.map InputsTable.row ++ [[]])) := by
    intro entries still
    induction entries with
    | nil => exact blank
    | cons argument rest hypothesis =>
      rcases List.forall_mem_cons.mp still with ⟨own, others⟩
      have written : InputsTable.row argument ≠ [] := by
        rw [InputsTable.row_eq]
        simp
      rw [List.map_cons, List.cons_append,
        Text.linesBack_cons_of_trimmed (InputsTable.isTrimmed_row argument) written]
      exact HasKinds.append unclosed_of_isStill own (hypothesis others)
  rw [writeInputs]
  split
  · exact HasKinds.nil
  · rw [InputsTable.write, List.cons_append, List.cons_append,
      Text.linesBack_cons_of_single (by decide) (by decide),
      Text.linesBack_cons_of_single (by decide) (by decide),
      Text.linesBack_cons_of_single (by decide) (by decide)]
    refine HasKinds.cons unclosed_of_isStill hasKind_inputs ⟨⟨rfl, rfl⟩, rfl⟩ ?_
    refine HasKinds.cons unclosed_of_isStill (hasKind_row _) ⟨⟨rfl, rfl⟩, rfl⟩ ?_
    exact HasKinds.cons unclosed_of_isStill (hasKind_row _) ⟨⟨rfl, rfl⟩, rfl⟩
      (rows test.arguments.entries plain.rows)

theorem isStill_platformsLine
    {test : AtomicTest}
    (single : '\n' ∉ Platform.writeList test.platforms) :
    HasKinds LineKind.IsStill (linesBack [platformsLine test]) := by
  have absent : '\n' ∉ platformsLine test := by
    unfold platformsLine
    rw [List.mem_append, not_or]
    exact ⟨by decide, single⟩
  have dropped : Text.dropFinalReturn (platformsLine test) =
      "**Supported Platforms:** ".toList ++
        Text.dropFinalReturn (Platform.writeList test.platforms) :=
    Text.dropFinalReturn_append (by decide) _
  rw [Text.linesBack, Text.linesOf_cons_of_single absent, Text.linesOf_nil, List.map_singleton,
    dropped]
  exact HasKinds.nil.cons unclosed_of_isStill (hasKind_platforms _) ⟨⟨rfl, rfl⟩, rfl⟩

/-- The texts of a test above its executor. -/
def textsAbove (test : AtomicTest) : List Text :=
  writeTestDescription test.description ++ ([[]] ++ ([platformsLine test] ++ ([[]] ++
    (writeGuid test.guid ++ writeInputs test.arguments))))

theorem isStill_textsAbove
    {test : AtomicTest}
    (shape : test.IsRead)
    (plain : test.IsPlain) :
    HasKinds LineKind.IsStill (linesBack (textsAbove test)) := by
  have blank : HasKinds LineKind.IsStill (linesBack [[]]) :=
    HasKinds.nil.cons unclosed_of_isStill hasKind_nil ⟨⟨rfl, rfl⟩, rfl⟩
  have description : HasKinds LineKind.IsStill
      (linesBack (writeTestDescription test.description)) := by
    rw [writeTestDescription]
    split
    · exact HasKinds.nil
    · exact hasKinds_linesBack_trim ⟨⟨rfl, rfl⟩, rfl⟩ plain.description
  have guid : HasKinds LineKind.IsStill (linesBack (writeGuid test.guid)) := by
    have block := isBlock_writeGuid shape.guid
    rw [Text.linesBack_eq_linesOf block.unreturned]
    exact block.isStill (by decide) (by decide)
  have platforms := isStill_platformsLine shape.platforms
  have inputs := isStill_writeInputs plain
  simp only [textsAbove, Text.linesBack_append]
  exact description.append unclosed_of_isStill (blank.append unclosed_of_isStill
    (platforms.append unclosed_of_isStill (blank.append unclosed_of_isStill
      (guid.append unclosed_of_isStill inputs))))

/-! ## The whole test -/

theorem ownLines_eq (test : AtomicTest) :
    test.ownLines = linesBack (textsAbove test) ++ (linesBack (ExecutorBlock.write test.executor) ++
      linesBack ([[]] ++ (writeDependencies test ++ ["<br/>".toList]))) := by
  have split : (writeTest 1 test).drop 3 = textsAbove test ++ (ExecutorBlock.write test.executor ++
      ([[]] ++ (writeDependencies test ++ ["<br/>".toList]))) := by
    have whole : (writeTest 1 test).drop 3 = writeTestDescription test.description ++ [] ::
        platformsLine test :: [] :: (writeGuid test.guid ++ writeInputs test.arguments ++
          ExecutorBlock.write test.executor ++ [] ::
            (writeDependencies test ++ ["<br/>".toList])) := rfl
    rw [whole, textsAbove]
    simp
  rw [AtomicTest.ownLines, split, Text.linesBack_append, Text.linesBack_append]

/-- A plain test has a still beginning, its executor, and a calm end. -/
theorem exists_ownLines_eq
    {test : AtomicTest}
    (shape : test.IsRead)
    (plain : test.IsPlain) :
    ∃ above heading kind below, test.ownLines = above ++ heading :: below ∧
      HasKinds LineKind.IsStill above ∧ ExecutorBlock.IsOpened heading kind below := by
  have closing : HasKinds LineKind.IsCalm
      (linesBack ([[]] ++ (writeDependencies test ++ ["<br/>".toList]))) := by
    have lineBreak : HasKinds LineKind.IsCalm (linesBack ["<br/>".toList]) :=
      HasKinds.nil.cons unclosed_of_isCalm hasKind_break ⟨rfl, rfl⟩
    have blank : HasKinds LineKind.IsCalm (linesBack [[]]) := isCalm_cons_blank HasKinds.nil
    rw [Text.linesBack_append, Text.linesBack_append]
    exact blank.append unclosed_of_isCalm ((DependencyBlock.isCalm_writeDependencies plain).append
      unclosed_of_isCalm lineBreak)
  rcases ExecutorBlock.exists_isOpened_write plain.executor with
    ⟨heading, kind, below, written, opened⟩
  refine ⟨_, heading, kind, _, ?_, isStill_textsAbove shape plain, opened.append closing⟩
  rw [ownLines_eq, written, List.cons_append]

theorem isCalm_ownLines
    {test : AtomicTest}
    (shape : test.IsRead)
    (plain : test.IsPlain) :
    HasKinds LineKind.IsCalm test.ownLines := by
  rcases exists_ownLines_eq shape plain with ⟨above, heading, kind, below, whole, still, opened⟩
  rw [whole]
  exact (still.mono fun _ => And.left).append unclosed_of_isCalm
    (HasKinds.cons unclosed_of_isCalm opened.known opened.isCalm_kind opened.calm)

/-- A plain test makes no bad section of its own lines. -/
theorem not_isBad_ownSection
    {test : AtomicTest}
    (shape : test.IsRead)
    (plain : test.IsPlain) :
    ¬ test.ownSection.IsBad := by
  rcases exists_ownLines_eq shape plain with ⟨above, heading, kind, below, whole, still, opened⟩
  have fences : FencesClosed above := fun line member => (still line member).1.1
  have body : test.ownSection.body = scanFrom 1 none above ++
      ⟨1 + above.length, heading, kind⟩ :: scanFrom (1 + above.length + 1) none below := by
    rw [AtomicTest.ownSection, whole, scanFrom_append fences, opened.known.scanFrom_cons]
  have silent : ∀ line ∈ scanFrom 1 none above, ExecutorBlock.heading? line.kind = none :=
    fun line member => (still line member).2
  have first : Line.afterFirst? ExecutorBlock.heading? test.ownSection.body =
      (ExecutorBlock.heading? kind).map fun found =>
        (found, scanFrom (1 + above.length + 1) none below) := by
    rw [body, Line.afterFirst?_append silent, Line.afterFirst?]
    rcases opened.asks with ⟨elevated, rfl⟩ | ⟨⟨name, elevated, rfl⟩, -⟩ <;> rfl
  rintro (unclosed | absent | lacking)
  · exact unclosed fun line member => (isCalm_ownLines shape plain line member).1
  · refine absent ((Section.hasExecutor_iff _).mpr ?_)
    rw [first]
    rcases opened.asks with ⟨elevated, rfl⟩ | ⟨⟨name, elevated, rfl⟩, -⟩ <;>
      simp [ExecutorBlock.heading?]
  · rcases (Section.lacksCommand_iff rfl).mp lacking with
      ⟨executor, elevated, rest, found, commandless⟩
    rw [first] at found
    rcases opened.asks with ⟨elevated, rfl⟩ | ⟨⟨name, elevated, rfl⟩, starts⟩
    · simp [ExecutorBlock.heading?] at found
    · simp only [ExecutorBlock.heading?, Option.map_some, Option.some.injEq, Prod.mk.injEq] at found
      have split : scanFrom 1 none test.ownLines =
          (scanFrom 1 none above ++ [⟨1 + above.length, heading, .commandHeading name elevated⟩]) ++
            scanFrom (1 + above.length + 1) none below := by
        rw [List.append_assoc, List.singleton_append]
        exact body
      have command := starts (1 + above.length + 1) []
      rw [List.append_nil] at command
      have some := (FencedBlock.isSome_first?_iff split).mpr command
      rw [found.2, commandless] at some
      cases some

/-- A technique of plain texts keeps its tests. -/
theorem keepsTests_of_isPlain
    {technique : Technique}
    (shape : technique.IsRead)
    (plain : technique.IsPlain) :
    technique.KeepsTests := by
  have free : technique.OpensNoOther := by
    refine ⟨plain.description, fun test member => ?_⟩
    exact isTestHeading_of_mem fun line inScan =>
      (isCalm_ownLines (shape.tests test member) (plain.tests test member) line inScan).2
  exact (Technique.keepsTests_iff_of_isNamed shape plain.named free).mpr fun test member =>
    not_isBad_ownSection (shape.tests test member) (plain.tests test member)

/--
What is read from a page and written again keeps its tests exactly when all of them
have names, nothing else on the new page opens a test, and no test makes a bad
section of its own lines; of the first two, one has to be known.  Plain texts
suffice for all three.
-/
theorem keeps_tests_of_read
    {page : Text}
    {technique : Technique}
    (readable : read page = .ok technique) :
    (technique.IsNamed ∨ technique.OpensNoOther →
      (technique.KeepsTests ↔
        technique.IsNamed ∧ technique.OpensNoOther ∧
          ∀ test ∈ technique.tests, ¬ test.ownSection.IsBad)) ∧
      (technique.IsPlain → technique.KeepsTests) :=
  have shape := isRead_of_read readable
  ⟨Technique.keepsTests_iff shape, keepsTests_of_isPlain shape⟩

/-- A page with a repeated number, a fence in a description and a reference in a command. -/
def untidyPage : Text :=
  ("# t1003 - Dump\n## Atomic Test #7 - List\nSee\n```\n#### Inputs:\n```\n" ++
    "#### Attack Commands: Run with `CMD`!\n```\ndir &#60; x\n```\n" ++
    "## Atomic Test #7 - List\n#### Run it with these steps!\nLook\n").toList

/-- The technique of `untidyPage`. -/
def untidyTechnique : Technique where
  identifier := "T1003".toList
  name := "Dump".toList
  description := none
  tests := [
    { AtomicTest.bare "List".toList (.command "command_prompt".toList "dir < x".toList) with
      description := "See\n```\n#### Inputs:\n```".toList },
    AtomicTest.bare "List".toList (.manual "Look".toList)]

theorem isPlain_untidyTechnique : untidyTechnique.IsPlain := by
  have prompt : IsInterpreter "command_prompt".toList :=
    ⟨by decide, List.all_eq_true.mp (by decide)⟩
  refine ⟨?_, nofun, ?_⟩
  · intro test member
    rcases List.mem_pair.mp member with rfl | rfl <;> exact List.cons_ne_nil _ _
  · intro test member
    rcases List.mem_pair.mp member with rfl | rfl
    · exact {
        description := by decide
        rows := nofun
        executor := ⟨prompt, by decide, nofun⟩
        interpreter := fun dependent => absurd rfl dependent
        dependencies := nofun }
    · exact {
        description := by decide
        rows := nofun
        executor := (by decide : IsCalmText "Look".toList)
        interpreter := fun dependent => absurd rfl dependent
        dependencies := nofun }

/-- The tests of `untidyPage` are plain, and they are kept. -/
theorem keeps_tests_untidyPage :
    read untidyPage = .ok untidyTechnique ∧ untidyTechnique.IsPlain ∧
      (untidyTechnique.KeepsTests ↔
        untidyTechnique.IsNamed ∧ untidyTechnique.OpensNoOther ∧
          ∀ test ∈ untidyTechnique.tests, ¬ test.ownSection.IsBad) ∧
        untidyTechnique.KeepsTests :=
  have readable : read untidyPage = .ok untidyTechnique := by decide +kernel
  have plain := isPlain_untidyTechnique
  ⟨readable, plain, (keeps_tests_of_read readable).1 (Or.inl plain.named),
    (keeps_tests_of_read readable).2 plain⟩

/-- A page with a test whose name is blank. -/
def unnamedPage : Text :=
  ("# T1059 - Shell\n## Atomic Test #1 -  \n#### Attack Commands: Run with `sh`!\n" ++
    "```\nid\n```\n").toList

/-- The technique of `unnamedPage`, whose test is lost when it is written and read again. -/
def unnamedTechnique : Technique where
  identifier := "T1059".toList
  name := "Shell".toList
  description := none
  tests := [AtomicTest.bare [] (.command "sh".toList "id".toList)]

theorem not_forall_keeps_tests :
    ¬ ∀ (page : Text) (technique : Technique), read page = .ok technique →
      technique.KeepsTests := by
  intro kept
  have readable : read unnamedPage = .ok unnamedTechnique := by decide +kernel
  have lost : read (write unnamedTechnique) =
      .ok (Technique.bare "T1059".toList "Shell".toList) := by decide +kernel
  rcases kept unnamedPage unnamedTechnique readable with ⟨again, known, names⟩
  rw [lost] at known
  cases known
  cases names

end Page

end TechniquePages
