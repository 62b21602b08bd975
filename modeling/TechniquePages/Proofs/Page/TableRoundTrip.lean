import TechniquePages.Proofs.Page.ShellText
import TechniquePages.Proofs.Page.TableInk

/-!
# Arguments on a page

A page is read back with its arguments exactly when each of their texts is one cell
of the table: a line without a bar in which nothing reads as a reference.

That such texts are enough is a case of the round trip of pages.  That they are
needed is a matter of ink.  The first section of the page has its table at a known
place, whatever the rows hold and wherever it ends, so its arguments are read from
lines that were written for them.
-/

namespace TechniquePages.Page

open Text (linesOf)

/-- A plain test for a shell with arguments. -/
def inputsTest (entries : List Argument) : AtomicTest :=
  { plainTest (shell plainCommand) [] with arguments := ⟨.keyed, entries⟩ }

/-- A technique of one such test. -/
def inputsTechnique (entries : List Argument) : Technique :=
  { Technique.bare "T1059".toList "Shell".toList with tests := [inputsTest entries] }

/-! ## Where the table stands -/

/-- The lines before the table's rows, up to the heading of the test. -/
def leadTexts : List Text := [
  "# T1059 - Shell".toList, [], "## Atomic Tests".toList, [],
  "- [Atomic Test #1 - Shell](#atomic-test-1---shell)".toList, [], "<br/>".toList, []]

/-- The lines between the heading of the test and the table's rows. -/
def headTexts : List Text := [
  [], "**Supported Platforms:** ".toList, [], "#### Inputs:".toList,
  "| Name | Description | Type | Default Value |".toList,
  "|------|-------------|------|---------------|".toList]

/-- The heading of the test with the table. -/
def headingText : Text := "## Atomic Test #1 - Shell".toList

/-- The lines below the table. -/
def tailTexts : List Text :=
  ExecutorBlock.write (shell plainCommand) ++ [[], "<br/>".toList]

theorem writeIndex_inputsTest (entries : List Argument) :
    writeIndex 1 [inputsTest entries] =
      ["- [Atomic Test #1 - Shell](#atomic-test-1---shell)".toList] := by
  have title : testTitle 1 "Shell".toList = "Atomic Test #1 - Shell".toList := by decide
  have anchored : anchor "Atomic Test #1 - Shell".toList = "atomic-test-1---shell".toList := by
    decide
  have named : (inputsTest entries).name = "Shell".toList := rfl
  rw [writeIndex, named, title, anchored]
  rfl

theorem writeLines_inputsTechnique
    {entries : List Argument}
    (nonempty : entries ≠ []) :
    writeLines (inputsTechnique entries) =
      leadTexts ++ headingText :: (headTexts ++
        (entries.map InputsTable.row ++ [] :: tailTexts)) := by
  have title : testTitle 1 "Shell".toList = "Atomic Test #1 - Shell".toList := by decide
  have heading : "## ".toList ++ testTitle 1 (inputsTest entries).name = headingText :=
    congrArg ("## ".toList ++ ·) title
  have index := writeIndex_inputsTest entries
  have inputs : writeInputs (inputsTest entries).arguments =
      "#### Inputs:".toList :: (InputsTable.write ⟨.keyed, entries⟩ ++ [[]]) := by
    unfold writeInputs
    exact if_neg (by simpa [inputsTest] using nonempty)
  change ("# T1059 - Shell".toList :: [] :: "## Atomic Tests".toList :: [] ::
    (writeIndex 1 [inputsTest entries] ++ [] :: (writeTest 1 (inputsTest entries) ++ []))) = _
  rw [index, writeTest, heading, inputs, InputsTable.write]
  have undescribed : writeTestDescription (inputsTest entries).description = [] := rfl
  have unnumbered : writeGuid (inputsTest entries).guid = [] := rfl
  have independent : writeDependencies (inputsTest entries) = [] := rfl
  have platforms : "**Supported Platforms:** ".toList ++
      Platform.writeList (inputsTest entries).platforms = "**Supported Platforms:** ".toList := rfl
  have executor : (inputsTest entries).executor = shell plainCommand := rfl
  rw [undescribed, unnumbered, independent, platforms, executor, leadTexts, headTexts, tailTexts]
  simp

/-- The lines of the page, whatever the rows hold. -/
theorem lines_write_inputsTechnique
    {entries : List Argument}
    (nonempty : entries ≠ []) :
    (write (inputsTechnique entries)).lines =
      leadTexts ++ headingText :: (headTexts ++
        ((linesOf (entries.map InputsTable.row)).map Text.dropFinalReturn ++ [] :: tailTexts)) := by
  have texts := writeLines_inputsTechnique nonempty
  have ends : ∃ before, before ≠ [] ∧
      writeLines (inputsTechnique entries) = before ++ ["<br/>".toList] := by
    refine ⟨leadTexts ++ headingText :: (headTexts ++ (entries.map InputsTable.row ++
      [] :: (ExecutorBlock.write (shell plainCommand) ++ [[]]))), by simp, ?_⟩
    rw [texts, tailTexts]
    simp
  rcases ends with ⟨before, above, split⟩
  have written : write (inputsTechnique entries) =
      Text.joinLines (writeLines (inputsTechnique entries)) ++ ['\n'] := by
    have solid := @trimEnd_joinLines before "<br/>".toList above '>' rfl (by decide)
    rw [← split] at solid
    rw [write, solid]
  have lead : (linesOf leadTexts).map Text.dropFinalReturn = leadTexts := by decide
  have heading : (linesOf [headingText]).map Text.dropFinalReturn = [headingText] := by
    decide
  have head : (linesOf headTexts).map Text.dropFinalReturn = headTexts := by decide
  have tail : (linesOf ([] :: tailTexts)).map Text.dropFinalReturn = [] :: tailTexts := by
    decide
  have headed : ∀ below, headingText :: below = [headingText] ++ below := fun _ => rfl
  rw [written, Text.lines_append_lineFeed, Text.lines_nil, List.append_nil, Text.joinLines,
    Text.cutAt_joinWith _ (by simp [split])]
  change (linesOf (writeLines (inputsTechnique entries))).map Text.dropFinalReturn = _
  rw [texts, headed]
  simp only [Text.linesOf_append, List.map_append, lead, heading, head, tail]
  rfl

/-! ## Reading the table -/

/-- Rows end at an empty line. -/
theorem isPrefix_takeWhile_isRow
    {texts rows back : List Text}
    (within : texts <+: rows ++ [] :: back) :
    texts.takeWhile InputsTable.isRow <+: rows := by
  induction rows generalizing texts with
  | nil =>
    cases texts with
    | nil => exact List.nil_prefix
    | cons text rest =>
      have empty : text = [] := (List.cons_prefix_cons.mp within).1
      have stopped : (text :: rest).takeWhile InputsTable.isRow = [] :=
        empty ▸ List.takeWhile_cons_of_neg (by decide)
      exact stopped ▸ List.nil_prefix
  | cons row rows hypothesis =>
    cases texts with
    | nil => exact List.nil_prefix
    | cons text rest =>
      rw [List.cons_append, List.cons_prefix_cons] at within
      rw [List.takeWhile_cons]
      split
      · exact List.cons_prefix_cons.mpr ⟨within.1, hypothesis within.2⟩
      · exact List.nil_prefix

/-- The preamble is the beginning of the lines. -/
theorem isPrefix_preamble (lines : List Line) : preamble lines <+: lines := by
  unfold preamble
  induction lines with
  | nil => exact List.nil_prefix
  | cons line rest hypothesis =>
    rw [divide]
    cases line.kind.testName? with
    | some name => exact List.nil_prefix
    | none => exact List.cons_prefix_cons.mpr ⟨rfl, hypothesis⟩

/-- The first section of the page begins with the head of the table. -/
theorem sections_scan_inputsTechnique
    {page : Text}
    {rest : List Text}
    (lines : page.lines = leadTexts ++ headingText :: (headTexts ++ rest)) :
    ∃ others, sections (scan page) =
      ⟨"Shell".toList, scanFrom 10 none headTexts ++ preamble (scanFrom 16 none rest)⟩ ::
        others := by
  have opens : isTestHeading headingText = true := by decide
  have heading : classify headingText = .testHeading "Shell".toList := by decide
  have closed : FencesClosed headTexts := by
    have checked : (scanFrom 1 none headTexts).all (!·.kind.isUnclosed) = true := by decide
    simpa [FencesClosed] using List.all_eq_true.mp checked
  have unheaded : (leadTexts ++ headTexts).all (!isTestHeading ·) = true := by decide
  have free : ∀ text ∈ leadTexts ++ headTexts, isTestHeading text = false := by
    simpa using List.all_eq_true.mp unheaded
  have lead : ∀ line ∈ scanFrom 1 none leadTexts, line.kind.testName? = none :=
    fun _ => testName?_of_mem_scanFrom fun text member => free text (List.mem_append_left _ member)
  have head : ∀ line ∈ scanFrom 10 none headTexts, line.kind.testName? = none :=
    fun _ => testName?_of_mem_scanFrom fun text member => free text (List.mem_append_right _ member)
  refine ⟨sections (scanFrom 16 none rest), ?_⟩
  have scanned : scan page = scanFrom 1 none leadTexts ++
      ⟨9, headingText, .testHeading "Shell".toList⟩ ::
        (scanFrom 10 none headTexts ++ scanFrom 16 none rest) := by
    rw [scan, lines, scanFrom_append_heading 1 leadTexts opens,
      scanFrom_line _ _ (fenceLanguage?_of_isTestHeading opens), heading, scanFrom_append closed]
    rfl
  rw [scanned, sections, divide_append_of_free lead, divide, divide_append_of_free head]
  rfl

/-- The arguments of that section are read from the lines of the table. -/
theorem arguments_of_headTexts
    {below : List Line}
    {rows back : List Text}
    (within : below.map Line.text <+: rows ++ [] :: back) :
    ∃ read : List Text, read <+: rows ∧
      Section.arguments (scanFrom 10 none headTexts ++ below) =
        (read.filterMap InputsTable.argument?).foldl Arguments.insert .empty := by
  have scanned : scanFrom 10 none headTexts = [
      ⟨10, [], .prose⟩, ⟨11, "**Supported Platforms:** ".toList, .platforms []⟩,
      ⟨12, [], .prose⟩, ⟨13, "#### Inputs:".toList, .inputsHeading⟩,
      ⟨14, "| Name | Description | Type | Default Value |".toList, .prose⟩,
      ⟨15, "|------|-------------|------|---------------|".toList, .prose⟩] := by
    decide
  have titles : InputsTable.isRow "| Name | Description | Type | Default Value |".toList = true := by
    decide
  have rule : InputsTable.isRule "|------|-------------|------|---------------|".toList = true := by
    decide
  have found : Section.inputTexts? (scanFrom 10 none headTexts ++ below) =
      some ("| Name | Description | Type | Default Value |".toList ::
        "|------|-------------|------|---------------|".toList :: below.map Line.text) := by
    rw [scanned]
    rfl
  refine ⟨(below.map Line.text).takeWhile InputsTable.isRow, isPrefix_takeWhile_isRow within, ?_⟩
  rw [Section.arguments, found, Option.map_some, Option.getD_some, InputsTable.arguments,
    InputsTable.rows?, titles, rule]
  rfl

/-- The technique is read back with all its arguments. -/
def IsReadBack (entries : List Argument) : Prop :=
  ∃ technique test, read (write (inputsTechnique entries)) = .ok technique ∧
    technique.tests = [test] ∧ test.arguments = ⟨.keyed, entries⟩

/-- Arguments that are read back have cells for texts. -/
theorem isCell_of_isReadBack
    {entries : List Argument}
    (nonempty : entries ≠ [])
    (back : IsReadBack entries) :
    ∀ argument ∈ entries, ∀ text ∈ argument.texts, IsCell text := by
  rcases back with ⟨technique, test, known, tests, arguments⟩
  rcases sections_scan_inputsTechnique (lines_write_inputsTechnique nonempty) with
    ⟨others, parts⟩
  have readable := readTests_of_read known
  rw [parts, tests] at readable
  rcases (readTests_eq_ok readable).2 0 _ rfl with ⟨first, same, ofPart⟩
  have isFirst : test = first := by simpa using same
  have below := (isPrefix_preamble (scanFrom 16 none
    ((linesOf (entries.map InputsTable.row)).map Text.dropFinalReturn ++ [] :: tailTexts))).map
      Line.text
  rw [map_text_scanFrom] at below
  rcases arguments_of_headTexts below with ⟨rows, within, ofRows⟩
  rcases Section.exists_executor_of_read ofPart with ⟨executor, -, rfl⟩
  refine InputsTable.isCell_of_read_back within.sublist ?_
  rw [← ofRows, ← arguments, isFirst]
  rfl

/-! ## Arguments that are read back -/

/-- Arguments whose texts are cells are read back. -/
theorem isReadBack_of_isPrintable
    {entries : List Argument}
    (distinct : (entries.map Argument.name).Nodup)
    (printable : ∀ argument ∈ entries, argument.IsPrintable) :
    IsReadBack entries := by
  have command := @isPrintable_shell plainCommand isCode_plainCommand none (by simp)
  have plain : (plainTest (shell plainCommand) []).IsPrintable :=
    isPrintable_plainTest command (by simp)
  have test : (inputsTest entries).IsPrintable :=
    { plain with arguments := printable, distinct := distinct }
  have written : IsShellText plainCommand := ⟨isCode_plainCommand, by decide⟩
  have technique : (inputsTechnique entries).IsPrintable :=
    { isPrintable_shellTechnique written .command with
      tests := by simpa [inputsTechnique] using test }
  exact ⟨_, _, read_write_reread technique, rfl, rfl⟩

/--
Arguments with different names are read back from their page exactly when no text of
theirs holds a bar, a line feed, or anything that reads as a reference.
-/
theorem inputs_survive_iff
    (entries : List Argument)
    (nonempty : entries ≠ [])
    (distinct : (entries.map Argument.name).Nodup)
    (filled : ∀ argument ∈ entries, argument.IsFilled) :
    IsReadBack entries ↔
      ∀ argument ∈ entries, ∀ text ∈ argument.texts,
        '|' ∉ text ∧ '\n' ∉ text ∧ Html.decode text = text := by
  constructor
  · intro back argument member text inside
    have cell := isCell_of_isReadBack nonempty back argument member text inside
    exact ⟨cell.unbarred, cell.line.single, cell.decoded⟩
  · intro free
    refine isReadBack_of_isPrintable distinct fun argument member => ?_
    refine Argument.isPrintable_of_isCell (filled argument member) fun text inside => ?_
    have trimmed : Text.IsTrimmed text := by
      rcases List.mem_cons.mp inside with rfl | detail
      · exact (filled argument member).name
      · exact ((filled argument member).details text detail).1
    rcases free argument member text inside with ⟨unbarred, single, decoded⟩
    exact ⟨⟨trimmed, single⟩, unbarred, decoded⟩

/-- An argument with a default value, which may be any. -/
def inputArgument (value : String) : Argument :=
  ⟨"word".toList, none, none, some value.toList⟩

theorem isFilled_inputArgument
    (value : String)
    (trimmed : Text.IsTrimmed value.toList)
    (nonempty : value.toList ≠ []) :
    (inputArgument value).IsFilled where
  name := show Text.IsTrimmed "word".toList by decide
  details := by
    intro text member
    have same : text = value.toList := List.mem_singleton.mp member
    exact same ▸ ⟨trimmed, nonempty⟩

/-- A value with a backslash is read back. -/
theorem inputs_survive_backslash :
    (inputArgument "C:\\x").IsFilled ∧ IsReadBack [inputArgument "C:\\x"] := by
  have filled := isFilled_inputArgument "C:\\x" (by decide) (by decide)
  refine ⟨filled, (inputs_survive_iff [inputArgument "C:\\x"] (List.cons_ne_nil _ _)
    (List.nodup_singleton _) ?_).mpr ?_⟩
  · intro argument member
    exact List.mem_singleton.mp member ▸ filled
  · intro argument member text inside
    rw [List.mem_singleton.mp member] at inside
    change text ∈ ["word".toList, "C:\\x".toList] at inside
    rcases List.mem_pair.mp inside with rfl | rfl <;>
      exact ⟨by decide, by decide, Html.decode_eq_self _ (by decide)⟩

/-- Not all arguments are read back: a value with a bar in it is not. -/
theorem not_forall_inputs_survive :
    ¬ ∀ entries : List Argument, entries ≠ [] → (entries.map Argument.name).Nodup →
      (∀ argument ∈ entries, argument.IsFilled) → IsReadBack entries := by
  intro every
  have filled := isFilled_inputArgument "a|b" (by decide) (by decide)
  have back := every [inputArgument "a|b"] (List.cons_ne_nil _ _) (List.nodup_singleton _)
    fun argument member => List.mem_singleton.mp member ▸ filled
  have cell := isCell_of_isReadBack (List.cons_ne_nil _ _) back _ (List.mem_singleton_self _)
    "a|b".toList (List.mem_cons_of_mem _ (List.mem_singleton_self _))
  exact cell.unbarred (by decide)

end TechniquePages.Page
