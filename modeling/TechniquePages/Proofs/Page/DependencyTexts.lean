import TechniquePages.Proofs.Html.Ink
import TechniquePages.Proofs.Page.LoneTest

/-!
# Texts of dependencies

A record holds the description of a dependency as free text, and a page prints it
behind the mark of a heading.  Its reader takes the rest of that line only: what a
description says on further lines stands between two headings, where nobody reads it.

The commands stand between fences and keep all their lines, but there a line end of
two characters is read as one.

So the dependencies of a test are read back if and only if their descriptions are
single lines and their commands have short line ends.  Nothing is mixed up otherwise:
each dependency comes back with the first line of its description and its own commands.
-/

namespace TechniquePages

open Page
open Text (IsTrimmed IsReturnFree linesBack)

namespace Text

/-- The first line of a text; where there is none it is empty. -/
def firstLine (text : Text) : Text :=
  text.lines.headD []

section FirstLine

variable {front text : Text}

/-- A trimmed text behind a mark goes on below its first line. -/
theorem linesBack_append_of_trimmed
    (single : '\n' ∉ front)
    (unreturned : front.getLast? ≠ some '\r')
    (trimmed : IsTrimmed text) :
    linesBack [front ++ text] = (front ++ text.firstLine) :: text.lines.tail := by
  rcases List.exists_cons_of_ne_nil (cutAt_ne_nil '\n' text) with ⟨piece, pieces, cut⟩
  have whole : linesBack [front ++ text] =
      (front ++ dropFinalReturn piece) :: pieces.map dropFinalReturn := by
    rw [linesBack, linesOf_cons, linesOf_nil, List.append_nil, cutAt_append_of_not_mem single cut,
      List.map_cons, dropFinalReturn_append unreturned]
  by_cases empty : text = []
  · subst empty
    cases cut
    exact whole
  · rw [whole, firstLine, trimmed.lines_eq empty, cut]
    rfl

theorem firstLine_isPrefix (trimmed : IsTrimmed text) : text.firstLine <+: text := by
  by_cases empty : text = []
  · subst empty
    exact List.prefix_refl _
  · rcases List.exists_cons_of_ne_nil (cutAt_ne_nil '\n' text) with ⟨piece, pieces, cut⟩
    have first : text.firstLine = dropFinalReturn piece := by
      rw [firstLine, trimmed.lines_eq empty, cut]
      rfl
    have whole := joinWith_cutAt '\n' text
    have start : piece <+: text := by
      rw [← whole, cut]
      cases pieces with
      | nil => exact List.prefix_refl _
      | cons next rest => exact ⟨'\n' :: joinWith ['\n'] (next :: rest), by simp [joinWith]⟩
    rw [first]
    exact (dropFinalReturn_isPrefix piece).trans start

theorem newline_not_mem_firstLine (text : Text) : '\n' ∉ text.firstLine := by
  rw [firstLine]
  cases known : text.lines with
  | nil => simp
  | cons line rest =>
    exact newline_not_mem_of_mem_lines (known ▸ List.mem_cons_self ..)

/-- Only a text of one line is its first line. -/
theorem trim_firstLine_eq_iff (trimmed : IsTrimmed text) :
    text.firstLine.trim = text ↔ '\n' ∉ text := by
  constructor
  · intro same lineFeed
    rw [← same] at lineFeed
    exact newline_not_mem_firstLine text ((trim_sublist _).subset lineFeed)
  · intro single
    have first : text.firstLine = text := by
      by_cases empty : text = []
      · subst empty
        rfl
      · rw [firstLine, trimmed.lines_eq empty, cutAt_eq_singleton single]
        exact dropFinalReturn_eq_self trimmed.unreturned
    rw [first, trimmed.trim_eq]

/-- Only a text with short line ends is its lines, joined again. -/
theorem trim_joinLines_eq_iff (trimmed : IsTrimmed text) :
    (joinLines text.lines).trim = text ↔ IsReturnFree text := by
  rw [← joinLines_lines_eq_iff trimmed]
  constructor
  · intro same
    have longer : text.Sublist (joinLines text.lines) := by
      conv_lhs => rw [← same]
      exact trim_sublist _
    exact (joinLines_lines_sublist trimmed).antisymm longer
  · intro same
    rw [same, trimmed.trim_eq]

/-- Something is left of a text when its lines are joined again. -/
theorem trim_joinLines_ne_nil
    (trimmed : IsTrimmed text)
    (nonempty : text ≠ []) :
    (joinLines text.lines).trim ≠ [] := by
  intro nothing
  rw [trim_eq_nil_iff] at nothing
  refine nonempty (trimmed.symm.trans ((trim_eq_nil_iff text).mpr fun character member => ?_))
  -- What is lost on the way, line feeds and final carriage returns, is blank anyway.
  have whole := joinWith_cutAt '\n' text
  rw [← whole] at member
  rcases mem_joinWith member with lineFeed | ⟨piece, inPieces, inside⟩
  · rw [List.mem_singleton.mp lineFeed]
    decide
  · have line : dropFinalReturn piece ∈ text.lines := by
      rw [trimmed.lines_eq nonempty]
      exact List.mem_map_of_mem inPieces
    have kept := (trim_eq_nil_iff (dropFinalReturn piece)).mpr fun other inLine =>
      nothing other (subset_joinWith ['\n'] line inLine)
    rw [trim_dropFinalReturn] at kept
    exact (trim_eq_nil_iff piece).mp kept character inside

end FirstLine

end Text

/-! ## Dependencies without marks -/

namespace Page

/-- A line that heads nothing and does not start with a fence. -/
def IsContinuation (line : Text) : Prop :=
  (classify line).level? = none ∧ Text.startsWith line Marker.fence = false

instance (line : Text) : Decidable (IsContinuation line) :=
  inferInstanceAs (Decidable (_ ∧ _))

/-- A command that may stand between fences and in which nothing is a reference. -/
structure IsTidyCommand (text : Text) : Prop where
  trimmed : IsTrimmed text
  plain : IsPlainCode text
  decoded : Html.decode text = text

/-- The content of a block that was written with this one. -/
def FencedBlock.reread (content : Text) : Text :=
  Html.decode (Text.joinLines content.lines).trim

end Page

/-- A dependency without marks and references; its description may have many lines. -/
structure Dependency.IsUnmarked (dependency : Dependency) : Prop where
  trimmed : IsTrimmed dependency.description
  continued : ∀ line ∈ dependency.description.lines.tail, IsContinuation line
  decoded : Html.decode dependency.description = dependency.description
  commands : ∀ command ∈ dependency.commands, IsTidyCommand command
  gets : dependency.get ≠ some []

/-- The test with other dependencies. -/
def AtomicTest.withDependencies
    (dependencies : List Dependency)
    (test : AtomicTest) : AtomicTest :=
  { test with dependencies := dependencies }

/-- A dependency as a page gives it back: its description ends with the first line. -/
def Dependency.onPage (dependency : Dependency) : Dependency where
  description := Html.decode dependency.description.firstLine.trim
  check := FencedBlock.reread dependency.check
  get := dependency.get.map FencedBlock.reread

/-- Every text of the dependency is read back as it is written. -/
def Dependency.FitsPage (dependency : Dependency) : Prop :=
  '\n' ∉ dependency.description ∧ ∀ command ∈ dependency.commands, IsReturnFree command

namespace Page

theorem IsTidyCommand.reread_eq_iff
    {text : Text}
    (tidy : IsTidyCommand text) :
    FencedBlock.reread text = text ↔ IsReturnFree text := by
  have shorter := (Text.trim_sublist _).trans (Text.joinLines_lines_sublist tidy.trimmed)
  rw [FencedBlock.reread, Html.decode_eq_iff_of_sublist shorter tidy.decoded]
  exact Text.trim_joinLines_eq_iff tidy.trimmed

end Page

namespace Dependency

theorem IsUnmarked.onPage_eq_iff
    {dependency : Dependency}
    (unmarked : dependency.IsUnmarked) :
    dependency.onPage = dependency ↔ dependency.FitsPage := by
  have first := (Text.trim_sublist _).trans (Text.firstLine_isPrefix unmarked.trimmed).sublist
  have description : Html.decode dependency.description.firstLine.trim = dependency.description ↔
      '\n' ∉ dependency.description := by
    rw [Html.decode_eq_iff_of_sublist first unmarked.decoded]
    exact Text.trim_firstLine_eq_iff unmarked.trimmed
  have check := (unmarked.commands dependency.check (List.mem_cons_self ..)).reread_eq_iff
  have get : dependency.get.map FencedBlock.reread = dependency.get ↔
      ∀ command ∈ dependency.get, IsReturnFree command := by
    cases known : dependency.get with
    | none => simp
    | some command =>
      have member : command ∈ dependency.commands := by simp [Dependency.commands, known]
      simp [(unmarked.commands command member).reread_eq_iff]
  have parts : dependency.onPage = dependency ↔
      Html.decode dependency.description.firstLine.trim = dependency.description ∧
        FencedBlock.reread dependency.check = dependency.check ∧
          dependency.get.map FencedBlock.reread = dependency.get := by
    cases dependency
    simp only [onPage, Dependency.mk.injEq]
  rw [parts, description, check, get, FitsPage, Dependency.commands, List.forall_mem_cons]
  simp only [Option.mem_toList, Option.mem_def]

theorem map_onPage_eq_iff
    {dependencies : List Dependency}
    (unmarked : ∀ dependency ∈ dependencies, dependency.IsUnmarked) :
    dependencies.map onPage = dependencies ↔ ∀ dependency ∈ dependencies, dependency.FitsPage := by
  conv_lhs => rhs; rw [← List.map_id dependencies]
  rw [List.map_inj_left]
  exact forall₂_congr fun dependency member => (unmarked dependency member).onPage_eq_iff

end Dependency

/-! ## Lines below a description -/

namespace Page

/--
The kind leaves no fence open, and begins no part of a test but its platforms and guid,
which have no headings: a line of a description may look like them.
-/
abbrev LineKind.IsIdle (kind : LineKind) : Prop :=
  kind.MayStand [.platforms, .guid]

/-- The kind is idle and describes no dependency. -/
def LineKind.IsUnder (kind : LineKind) : Prop :=
  kind.IsIdle ∧ kind.dependency? = none

/-- The kind leaves no fence open and is no heading. -/
def LineKind.IsUnheaded (kind : LineKind) : Prop :=
  kind.isUnclosed = false ∧ kind.level? = none

theorem unclosed_of_isIdle (kind : LineKind) (idle : kind.IsIdle) : kind.isUnclosed = false :=
  idle.1

theorem unclosed_of_isUnder (kind : LineKind) (under : kind.IsUnder) : kind.isUnclosed = false :=
  under.1.1

theorem unclosed_of_isUnheaded
    (kind : LineKind)
    (unheaded : kind.IsUnheaded) :
    kind.isUnclosed = false :=
  unheaded.1

/-- What is no heading is under the description above it. -/
theorem LineKind.IsUnheaded.isUnder
    {kind : LineKind}
    (unheaded : kind.IsUnheaded) :
    kind.IsUnder := by
  rcases unheaded with ⟨closed, level⟩
  cases kind with
  | platforms names => exact ⟨⟨rfl, by simp [LineKind.part?]⟩, rfl⟩
  | guid value => exact ⟨⟨rfl, by simp [LineKind.part?]⟩, rfl⟩
  | fenceOpen language ends => exact ⟨⟨closed, by simp [LineKind.part?]⟩, rfl⟩
  | fenceClose => exact ⟨⟨rfl, by simp [LineKind.part?]⟩, rfl⟩
  | code => exact ⟨⟨rfl, by simp [LineKind.part?]⟩, rfl⟩
  | prose => exact ⟨⟨rfl, by simp [LineKind.part?]⟩, rfl⟩
  | _ => cases level

theorem isUnheaded_fenced (language : Text) :
    (LineKind.fenceOpen language true).IsUnheaded ∧ LineKind.code.IsUnheaded ∧
      LineKind.fenceClose.IsUnheaded :=
  ⟨⟨rfl, rfl⟩, ⟨rfl, rfl⟩, ⟨rfl, rfl⟩⟩

theorem IsContinuation.fenceLanguage?_eq_none
    {line : Text}
    (continues : IsContinuation line) :
    Marker.fenceLanguage? line = none := by
  have unmarked : Text.after? Marker.fence line = none := by
    simpa [Text.startsWith] using continues.2
  simp [Marker.fenceLanguage?, unmarked]

/-- The first line of a trimmed text describes a dependency. -/
theorem hasKind_firstLine
    {text : Text}
    (trimmed : IsTrimmed text) :
    HasKind ("##### Description: ".toList ++ text.firstLine) (.dependency text.firstLine.trim) := by
  refine hasKind_dependency_of_solid fun character first => ?_
  rcases Text.firstLine_isPrefix trimmed with ⟨rest, whole⟩
  refine ((Text.isTrimmed_iff _).mp trimmed).1 character ?_
  rw [← whole, List.head?_append, Option.mem_def.mp first]
  rfl

/-- The lines that go on with a description are no headings. -/
theorem isUnheaded_of_isContinuation
    {texts : List Text}
    (continued : ∀ line ∈ texts, IsContinuation line) :
    HasKinds LineKind.IsUnheaded texts :=
  HasKinds.of_unfenced unclosed_of_isUnheaded
    (fun line member => (continued line member).fenceLanguage?_eq_none)
    (fun line member => ⟨isUnclosed_classify line, (continued line member).1⟩)

/-- A tidy command is read from its fences, its line ends made short. -/
theorem FencedBlock.first?_write_of_isTidyCommand
    {language content : Text}
    (word : ∀ character ∈ language, Marker.isLanguageCharacter character = true)
    (tidy : IsTidyCommand content)
    (number : Nat)
    (rest : List Line) :
    first? (scanFrom number none (linesBack (write language content)) ++ rest) =
      some ⟨reread content, rest⟩ := by
  have content := tidy.trimmed.trim_eq
  have plain := fun line => @IsPlainCode.isCodeLine_of_mem _ line tidy.plain
  rw [linesBack_write (isLine_of_word word), first?_fenced (fenceLanguage?_append word) plain
    isClosingFence_fence, content, Text.joinLines_linesBack tidy.trimmed]
  rfl

namespace DependencyBlock

variable {language : Text} {dependency : Dependency}

/-- The lines of a dependency below the first line of its description. -/
def linesUnder
    (language : Text)
    (dependency : Dependency) : List Text :=
  dependency.description.lines.tail ++
    "##### Check Prereq Commands:".toList ::
      (linesBack (FencedBlock.write language dependency.check) ++
        linesBack (writeGet language dependency.get))

theorem linesBack_writeOne_of_trimmed (trimmed : IsTrimmed dependency.description) :
    linesBack (writeOne language dependency) =
      ("##### Description: ".toList ++ dependency.description.firstLine) ::
        linesUnder language dependency := by
  rw [linesBack_writeOne, trimmed.trim_eq,
    Text.linesBack_append_of_trimmed (by decide) (by decide) trimmed]
  rfl

theorem linesBack_writeGet_of_ne_nil
    {get : Text}
    (trimmed : IsTrimmed get)
    (nonempty : get ≠ []) :
    linesBack (writeGet language (some get)) =
      "##### Get Prereq Commands:".toList :: linesBack (FencedBlock.write language get) := by
  rw [writeGet, if_neg (by simpa [trimmed.trim_eq] using nonempty),
    Text.linesBack_cons_of_single (by decide) (by decide)]

/-- The lines of a tidy command are under the description above it. -/
theorem isUnder_write
    (word : ∀ character ∈ language, Marker.isLanguageCharacter character = true)
    {content : Text}
    (tidy : IsTidyCommand content) :
    HasKinds LineKind.IsUnder (linesBack (FencedBlock.write language content)) :=
  (hasKinds_write word tidy.plain (isUnheaded_fenced language)).mono
    fun _ => LineKind.IsUnheaded.isUnder

section Unmarked

variable (word : ∀ character ∈ language, Marker.isLanguageCharacter character = true)
  (unmarked : dependency.IsUnmarked)

include word unmarked

theorem isUnder_writeGet :
    HasKinds LineKind.IsUnder (linesBack (writeGet language dependency.get)) := by
  have heading : LineKind.getHeading.IsUnder := ⟨⟨rfl, by simp [LineKind.part?]⟩, rfl⟩
  refine hasKinds_writeGet unclosed_of_isUnder heading fun get present => ?_
  have member : get ∈ dependency.commands := List.mem_cons_of_mem _ (by simpa using present)
  exact isUnder_write word (unmarked.commands get member)

theorem isUnder_linesUnder :
    HasKinds LineKind.IsUnder (linesUnder language dependency) := by
  have check := unmarked.commands dependency.check (List.mem_cons_self ..)
  have own : LineKind.checkHeading.IsUnder := ⟨⟨rfl, by simp [LineKind.part?]⟩, rfl⟩
  have continued := (isUnheaded_of_isContinuation unmarked.continued).mono
    fun _ => LineKind.IsUnheaded.isUnder
  exact continued.append unclosed_of_isUnder
    (HasKinds.cons unclosed_of_isUnder hasKind_check own
      ((isUnder_write word check).append unclosed_of_isUnder (isUnder_writeGet word unmarked)))

theorem get?_linesBack_write
    (number : Nat)
    {rest : List Line}
    (ungotten : ∀ line ∈ rest, line.kind ≠ .getHeading) :
    get? (scanFrom number none (linesBack (writeGet language dependency.get)) ++ rest) =
      dependency.get.map FencedBlock.reread := by
  cases known : dependency.get with
  | none =>
    have absent : Line.after? .getHeading rest = none := Line.after?_eq_none ungotten
    simp [writeGet, get?, absent]
  | some get =>
    have member : get ∈ dependency.commands := by simp [Dependency.commands, known]
    have tidy := unmarked.commands get member
    have nonempty : get ≠ [] := by
      rintro rfl
      exact unmarked.gets known
    have found := FencedBlock.first?_write_of_isTidyCommand word tidy (number + 1) rest
    have kept : FencedBlock.reread get ≠ [] :=
      Html.decode_ne_nil (Text.trim_joinLines_ne_nil tidy.trimmed nonempty)
    rw [linesBack_writeGet_of_ne_nil tidy.trimmed nonempty, hasKind_get.scanFrom_cons,
      List.cons_append, get?]
    simp [found, ExecutorBlock.nonEmpty?, kept]

/-- The lines below a description make its dependency with both commands. -/
theorem dependency?_linesUnder
    (description : Text)
    (number : Nat)
    {rest : List Line}
    (ungotten : ∀ line ∈ rest, line.kind ≠ .getHeading) :
    dependency? description (scanFrom number none (linesUnder language dependency) ++ rest) =
      some ⟨Html.decode description, FencedBlock.reread dependency.check,
        dependency.get.map FencedBlock.reread⟩ := by
  have check := unmarked.commands dependency.check (List.mem_cons_self ..)
  have continued := isUnheaded_of_isContinuation unmarked.continued
  have closed : FencesClosed dependency.description.lines.tail :=
    fun line member => (continued line member).1
  have fences : FencesClosed (linesBack (FencedBlock.write language dependency.check)) :=
    fun line member => (isUnder_write word check line member).1.1
  -- No line of the description is a check heading, so the one below it is found.
  have unchecked : ∀ line ∈ scanFrom number none dependency.description.lines.tail,
      (if line.kind = .checkHeading then some () else none) = none := by
    intro line member
    have unheaded := forall_kind_scanFrom LineKind.IsUnheaded continued number line member
    have other : line.kind ≠ .checkHeading := by
      intro same
      rw [same] at unheaded
      cases unheaded.2
    rw [if_neg other]
  rw [linesUnder, scanFrom_append closed, hasKind_check.scanFrom_cons, scanFrom_append fences,
    List.append_assoc, dependency?, Line.after?, Line.afterFirst?_append unchecked,
    List.cons_append, ← Line.after?, Line.after?_cons]
  simp only [List.append_assoc, FencedBlock.first?_write_of_isTidyCommand word check,
    get?_linesBack_write word unmarked _ ungotten]

theorem isIdle_writeOne :
    HasKinds LineKind.IsIdle (linesBack (writeOne language dependency)) := by
  have under := (isUnder_linesUnder word unmarked).mono fun _ => And.left
  rw [linesBack_writeOne_of_trimmed unmarked.trimmed]
  exact HasKinds.cons unclosed_of_isIdle (hasKind_firstLine unmarked.trimmed)
    ⟨rfl, by simp [LineKind.part?]⟩ under

/-- The lines of an unmarked dependency make it as it is on a page. -/
theorem makes_writeOne_of_isUnmarked :
    Makes (linesBack (writeOne language dependency)) dependency.onPage := by
  have under := isUnder_linesUnder word unmarked
  refine ⟨(isIdle_writeOne word unmarked).mono unclosed_of_isIdle, fun number => ?_⟩
  rw [linesBack_writeOne_of_trimmed unmarked.trimmed]
  refine ⟨_, _, _, (hasKind_firstLine unmarked.trimmed).scanFrom_cons number _, rfl, ?_, ?_⟩
  · intro other member
    exact (forall_kind_scanFrom LineKind.IsUnder under _ other member).2
  · exact fun rest => dependency?_linesUnder word unmarked _ (number + 1)

end Unmarked

theorem isIdle_flatMap
    (word : ∀ character ∈ language, Marker.isLanguageCharacter character = true)
    {dependencies : List Dependency}
    (unmarked : ∀ dependency ∈ dependencies, dependency.IsUnmarked) :
    HasKinds LineKind.IsIdle (linesBack (dependencies.flatMap (writeOne language))) := by
  rw [Text.linesBack_flatMap]
  exact HasKinds.flatMap unclosed_of_isIdle fun dependency member =>
    isIdle_writeOne word (unmarked dependency member)

end DependencyBlock

/-! ## Lines below an executor -/

section Below

variable {test : AtomicTest}
  (interpreter : IsInterpreter test.dependencyInterpreter)
  (nonempty : test.dependencies ≠ [])
  (unmarked : ∀ dependency ∈ test.dependencies, dependency.IsUnmarked)

include interpreter nonempty unmarked

theorem mayStand_linesBelow :
    HasKinds (LineKind.MayStand [.platforms, .guid, .dependencies]) (linesBelow test) := by
  have dependencies := DependencyBlock.isIdle_flatMap (language_word interpreter) unmarked
  have last : IsBlock [.platforms, .guid, .dependencies] [[], "<br/>".toList] :=
    (IsBlock.nil.cons_prose hasKind_break (by decide)).cons_prose hasKind_nil (by simp)
  rw [linesBelow_of_dependencies interpreter.isLine nonempty]
  refine HasKinds.cons (fun _ => And.left) hasKind_nil ⟨rfl, by simp [LineKind.part?]⟩ ?_
  refine HasKinds.cons (fun _ => And.left) (hasKind_dependencies interpreter.isQuotable)
    ⟨rfl, by simp [LineKind.part?]⟩ ?_
  have wider : ∀ kind : LineKind, kind.IsIdle →
      kind.MayStand [.platforms, .guid, .dependencies] :=
    fun kind idle => LineKind.MayStand.mono idle (by simp)
  exact (dependencies.mono wider).append (fun _ => And.left) last.hasKinds

/-- A blank line stands below the executor, and then the heading of the dependencies. -/
theorem mayFollow_linesBelow (number : Nat) :
    ExecutorBlock.MayFollow (scanFrom number none (linesBelow test)) := by
  have uncleaned : ∀ line ∈ scanFrom number none (linesBelow test), line.kind ≠ .cleanupHeading :=
    (mayStand_linesBelow interpreter nonempty unmarked).kind_ne_of_mem rfl (by simp) number
  rw [linesBelow_of_dependencies interpreter.isLine nonempty, hasKind_nil.scanFrom_cons,
    (hasKind_dependencies interpreter.isQuotable).scanFrom_cons] at uncleaned ⊢
  exact ExecutorBlock.mayFollow_cons number rfl uncleaned

theorem DependencyBlock.read_linesBelow
    (executor : Text)
    (number : Nat) :
    (DependencyBlock.read executor (scanFrom number none (linesBelow test))).2 =
      test.dependencies.map Dependency.onPage := by
  have word := language_word interpreter
  have makes := fun dependency member =>
    makes_writeOne_of_isUnmarked word (unmarked dependency member)
  have closed : FencesClosed (linesBack (test.dependencies.flatMap
      (writeOne (ExecutorBlock.language test.dependencyInterpreter)))) :=
    (isIdle_flatMap word unmarked).mono unclosed_of_isIdle
  have prose : ∀ start, ∀ line ∈ scanFrom start none [[], "<br/>".toList], line.kind = .prose := by
    intro start line member
    rw [hasKind_nil.scanFrom_cons, hasKind_break.scanFrom_cons, scanFrom_nil] at member
    rcases List.mem_pair.mp member with rfl | rfl <;> rfl
  rw [linesBelow_of_dependencies interpreter.isLine nonempty, hasKind_nil.scanFrom_cons,
    (hasKind_dependencies interpreter.isQuotable).scanFrom_cons, scanFrom_append closed, read]
  simp only [Line.afterFirst?, heading?]
  rw [Text.linesBack_flatMap]
  exact readFrom_of_makes makes _ (prose _)

end Below

/-! ## Whole tests -/

section Whole

variable {test : AtomicTest} {dependencies : List Dependency}

theorem isInterpreter_withDependencies (printable : test.IsPrintable) :
    IsInterpreter (test.withDependencies dependencies).dependencyInterpreter := by
  change IsInterpreter test.dependencyInterpreter
  exact DependencyBlock.isInterpreter_dependencyInterpreter printable

variable (printable : test.IsPrintable)
  (nonempty : dependencies ≠ [])
  (unmarked : ∀ dependency ∈ dependencies, dependency.IsUnmarked)

include printable nonempty unmarked

/-- No line of the test leaves a fence open or opens another test. -/
theorem mayStand_ownLines_withDependencies :
    HasKinds
      (LineKind.MayStand [.platforms, .guid, .inputs, .executor, .cleanup, .dependencies])
      (test.withDependencies dependencies).ownLines := by
  have above := isBlock_textsAbove printable
  have executor := ExecutorBlock.isBlock_write printable.executor
  rw [← Text.linesBack_eq_linesOf executor.unreturned] at executor
  have below := @mayStand_linesBelow (test.withDependencies dependencies)
    (isInterpreter_withDependencies printable) nonempty unmarked
  rw [ownLines_eq]
  refine (above.mono (by simp)).hasKinds.append (fun _ => And.left) ?_
  exact (executor.mono (by simp)).hasKinds.append (fun _ => And.left)
    (below.mono fun _ stands => stands.mono (by simp))

/-- The section of the test is read, and its dependencies are as they are on a page. -/
theorem exists_read_ownLines_withDependencies (number : Nat) :
    ∃ made,
      Section.read
          ⟨test.name, scanFrom number none (test.withDependencies dependencies).ownLines⟩ =
        .ok made ∧
      made.dependencies = dependencies.map Dependency.onPage := by
  have interpreter := @isInterpreter_withDependencies test dependencies printable
  have above := isBlock_textsAbove printable
  have executor := ExecutorBlock.isBlock_write printable.executor
  have written := Text.linesBack_eq_linesOf executor.unreturned
  have whole := mayStand_ownLines_withDependencies printable nonempty unmarked
  have closed : Section.unclosedFence?
      (scanFrom number none (test.withDependencies dependencies).ownLines) = none := by
    rw [Section.unclosedFence?, Option.map_eq_none_iff, List.find?_eq_none]
    intro line member
    simp [(forall_kind_scanFrom _ whole number line member).1]
  have split : (test.withDependencies dependencies).ownLines =
      linesBack (textsAbove test) ++ (linesBack (ExecutorBlock.write test.executor) ++
        linesBelow (test.withDependencies dependencies)) := ownLines_eq _
  rw [split, written] at closed ⊢
  rw [scanFrom_append above.closed, scanFrom_append executor.closed] at closed ⊢
  -- Only executor and dependencies are followed from here: the guid of the test, if it has
  -- none of its own, may be one that stands in a description.
  generalize number + (linesBack (textsAbove test)).length = second at closed ⊢
  generalize second + (Text.linesOf (ExecutorBlock.write test.executor)).length = third at closed ⊢
  have carried := (ExecutorBlock.read_append above (by simp) test.name number _).trans
    (ExecutorBlock.read_write printable.executor test.name second
      (mayFollow_linesBelow interpreter nonempty unmarked third))
  have needed := fun name =>
    DependencyBlock.read_linesBelow interpreter nonempty unmarked name third
  rw [Section.read, closed]
  simp only [carried]
  refine ⟨_, rfl, ?_⟩
  simp only
  rw [DependencyBlock.read_append above (by simp), DependencyBlock.read_append executor (by simp)]
  exact needed _

end Whole

section Pages

variable {technique : Technique} {test : AtomicTest} {dependencies : List Dependency}

theorem exists_read_write_withDependencies
    (printable : (technique.withTest test).IsPrintable)
    (nonempty : dependencies ≠ [])
    (unmarked : ∀ dependency ∈ dependencies, dependency.IsUnmarked) :
    ∃ back made,
      read (write (technique.withTest (test.withDependencies dependencies))) = .ok back ∧
        back.tests = [made] ∧ made.dependencies = dependencies.map Dependency.onPage := by
  have own : test.IsPrintable := printable.tests test (List.mem_singleton_self test)
  have whole := mayStand_ownLines_withDependencies own nonempty unmarked
  have free : ∀ line ∈ (test.withDependencies dependencies).ownLines,
      isTestHeading line = false :=
    isTestHeading_of_mem (whole.silent asksFor_testName (by simp) 1)
  have recast : test.withDependencies dependencies =
      test.recast test.executor dependencies test.dependencyExecutor := rfl
  rcases exists_read_write_recast printable recast free with ⟨number, around, lone, -, reads⟩
  rcases exists_read_ownLines_withDependencies own nonempty unmarked number with
    ⟨made, sectionReads, known⟩
  refine ⟨around made, made, ?_, lone made, known⟩
  rw [reads, sectionReads]
  rfl

/--
The dependencies of a printable test are replaced by others without marks and references.
The page is read, and each of them comes back as it is on a page: with the first line of
its description and with its own commands.  So they survive if and only if every
description is a single line and no command has a line end of two characters.
-/
theorem read_write_withDependencies
    (printable : (technique.withTest test).IsPrintable)
    (nonempty : dependencies ≠ [])
    (unmarked : ∀ dependency ∈ dependencies, dependency.IsUnmarked) :
    ∃ back made,
      read (write (technique.withTest (test.withDependencies dependencies))) = .ok back ∧
        back.tests = [made] ∧ made.dependencies = dependencies.map Dependency.onPage ∧
          (made.dependencies = dependencies ↔
            ∀ dependency ∈ dependencies, dependency.FitsPage) := by
  rcases exists_read_write_withDependencies printable nonempty unmarked with
    ⟨back, made, reads, lone, known⟩
  refine ⟨back, made, reads, lone, known, ?_⟩
  rw [known]
  exact Dependency.map_onPage_eq_iff unmarked

end Pages

/-- A dependency that is described on two lines. -/
def twoLineTool : Dependency := ⟨"A tool\nand a key".toList, plainCommand, some plainCommand⟩

/-- A dependency with a line end of two characters in its check. -/
def longEndTool : Dependency := ⟨"A tool".toList, "true\r\nfalse".toList, none⟩

theorem isTidyCommand_plainCommand : IsTidyCommand plainCommand :=
  ⟨by decide, by decide, Html.decode_eq_self _ (by decide)⟩

theorem isUnmarked_twoLineTool : twoLineTool.IsUnmarked where
  trimmed := show IsTrimmed "A tool\nand a key".toList by decide
  continued := show ∀ line ∈ ["and a key".toList], IsContinuation line by decide
  decoded := Html.decode_eq_self "A tool\nand a key".toList (by decide)
  commands := List.forall_mem_cons.mpr ⟨isTidyCommand_plainCommand,
    List.forall_mem_singleton.mpr isTidyCommand_plainCommand⟩
  gets := show some plainCommand ≠ some [] by decide

theorem isUnmarked_longEndTool : longEndTool.IsUnmarked where
  trimmed := show IsTrimmed "A tool".toList by decide
  continued := show ∀ line ∈ ([] : List Text), IsContinuation line by decide
  decoded := Html.decode_eq_self "A tool".toList (by decide)
  commands := List.forall_mem_singleton.mpr
    ⟨by decide, by decide, Html.decode_eq_self "true\r\nfalse".toList (by decide)⟩
  gets := show none ≠ some [] by decide

theorem read_write_withDependencies_tools :
    (shellBase.withTest toolTest).IsPrintable ∧
      (∀ dependency ∈ [twoLineTool, longEndTool], dependency.IsUnmarked) ∧
      ∃ back made,
        read (write (shellBase.withTest
            (toolTest.withDependencies [twoLineTool, longEndTool]))) = .ok back ∧
          back.tests = [made] ∧
          made.dependencies = [twoLineTool, longEndTool].map Dependency.onPage ∧
            (made.dependencies = [twoLineTool, longEndTool] ↔
              ∀ dependency ∈ [twoLineTool, longEndTool], dependency.FitsPage) := by
  have unmarked : ∀ dependency ∈ [twoLineTool, longEndTool], dependency.IsUnmarked :=
    List.forall_mem_cons.mpr ⟨isUnmarked_twoLineTool, List.forall_mem_singleton.mpr
      isUnmarked_longEndTool⟩
  exact ⟨isPrintable_toolTest, unmarked,
    read_write_withDependencies isPrintable_toolTest (by simp) unmarked⟩

/-- Not all dependencies survive: a description is cut after its first line. -/
theorem not_forall_dependencies_survive :
    ¬ ∀ (technique : Technique) (test : AtomicTest) (dependencies : List Dependency),
      (technique.withTest test).IsPrintable → test.executor.name = "sh".toList →
      dependencies ≠ [] →
      (∀ dependency ∈ dependencies, dependency.IsUnmarked ∧
        IsReturnFree dependency.description ∧
          ∀ line ∈ dependency.description.lines, IsContinuation line) →
      ∃ back made,
        read (write (technique.withTest (test.withDependencies dependencies))) = .ok back ∧
          back.tests = [made] ∧ made.dependencies = dependencies := by
  intro survive
  have each : ∀ dependency ∈ [twoLineTool], dependency.IsUnmarked :=
    List.forall_mem_singleton.mpr isUnmarked_twoLineTool
  have returnFree : IsReturnFree twoLineTool.description := fun returned =>
    absurd (returned.subset (List.mem_cons_self ..))
      (show '\r' ∉ "A tool\nand a key".toList by decide)
  rcases survive shellBase toolTest [twoLineTool] isPrintable_toolTest rfl (by simp)
    (List.forall_mem_singleton.mpr ⟨isUnmarked_twoLineTool, returnFree, by decide⟩) with
    ⟨back, made, reads, lone, kept⟩
  rcases @exists_read_write_withDependencies shellBase toolTest [twoLineTool] isPrintable_toolTest
    (by simp) each with ⟨other, found, again, single, known⟩
  rw [reads] at again
  cases again
  rw [lone] at single
  cases single
  have fits := (Dependency.map_onPage_eq_iff each).mp (known.symm.trans kept)
  exact absurd (fits twoLineTool (List.mem_singleton_self _)).1 (by decide)

end Page

end TechniquePages
