import Mathlib.Data.List.Forall2
import TechniquePages.Proofs.Page.StrayLines

/-!
# Stray prose around a command

A blank line, a break or a sentence between the parts of a test is passed over.  A
line of prose may be put anywhere into a section below the free text that describes
the test, though not into a fenced block and not into the table of inputs: if the
test runs a command, the page makes the same technique.

The line may even look like a closing fence.  Where the page can be read, every fence
above the line has its end above it, so there is no block that the line could close,
and the scan goes on below as it did.
-/

namespace TechniquePages.Page

/-! ## The line -/

/-- A line that is prose by itself and no row of a table. -/
structure IsStrayLine (text : Text) : Prop where
  prose : ∃ alone : Text, alone.lines = [text] ∧ (scan alone).map Line.kind = [.prose]
  unrowed : InputsTable.isRow text = false

namespace IsStrayLine

variable {text : Text}

theorem kindBefore_nil
    (stray : IsStrayLine text) :
    kindBefore text [] = .prose := by
  rcases stray.prose with ⟨alone, lines, kinds⟩
  simpa [scan, lines, scanFrom] using kinds

theorem fenceLanguage?_eq_none
    (stray : IsStrayLine text) :
    Marker.fenceLanguage? text = none := by
  have prose := stray.kindBefore_nil
  unfold kindBefore at prose
  cases fenced : Marker.fenceLanguage? text with
  | none => rfl
  | some language => simp [fenced] at prose

theorem classify_eq_prose
    (stray : IsStrayLine text) :
    classify text = .prose := by
  simpa [kindBefore, stray.fenceLanguage?_eq_none] using stray.kindBefore_nil

end IsStrayLine

/-! ## The table of inputs -/

/-- How many lines the table takes up; none, if there is no well-formed table. -/
def InputsTable.extent (texts : List Text) : Nat :=
  match rows? texts with
  | some rows => rows.length + 2
  | none => 0

/-- What does not belong to a run, and stands below it, leaves the run as it is. -/
theorem takeWhile_insert
    {α : Type}
    {keep : α → Bool}
    {stray : α}
    (unkept : keep stray = false)
    {front back : List α}
    (passed : ((front ++ back).takeWhile keep).length ≤ front.length) :
    (front ++ stray :: back).takeWhile keep = (front ++ back).takeWhile keep := by
  rw [List.takeWhile_append] at passed ⊢
  rw [List.takeWhile_append, List.takeWhile_cons_of_neg (by simp [unkept])]
  split
  · next whole =>
    -- The run takes in all lines in front, so none of those behind.
    rw [if_pos whole, List.length_append] at passed
    have ended : back.takeWhile keep = [] := List.length_eq_zero_iff.mp (by omega)
    rw [ended]
  · rfl

/-- A line below the table leaves the table as it is. -/
theorem InputsTable.rows?_insert
    {stray : Text}
    (unrowed : isRow stray = false)
    {front back : List Text}
    (passed : extent (front ++ back) ≤ front.length) :
    rows? (front ++ stray :: back) = rows? (front ++ back) := by
  have untabled : front.length < 2 → rows? (front ++ back) = none := by
    intro short
    cases found : rows? (front ++ back) with
    | none => rfl
    | some rows =>
      simp only [extent, found] at passed
      omega
  cases front with
  | nil =>
    rw [untabled (by simp)]
    exact rows?_of_not_isRow unrowed back
  | cons titles front =>
    cases front with
    | nil =>
      rw [untabled (by simp)]
      simp [rows?, isRule, unrowed]
    | cons rule front =>
      simp only [List.cons_append, rows?, extent] at passed ⊢
      cases formed : isRow titles && isRule rule with
      | false => rfl
      | true =>
        rw [takeWhile_insert unrowed]
        simpa [formed] using passed

/-- Every table of inputs that begins in the lines above has its end among them. -/
def TablesEndAbove (above below : List Line) : Prop :=
  ∀ (index : Nat) (inside : index < above.length), above[index].kind = .inputsHeading →
    index + 1 + InputsTable.extent ((above.drop (index + 1) ++ below).map Line.text) ≤
      above.length

instance (above below : List Line) : Decidable (TablesEndAbove above below) :=
  inferInstanceAs (Decidable (∀ (index : Nat) (_ : index < above.length), _ → _))

/-! ## A section with the line -/

variable {change : Nat → Nat} {above below : List Line} {stray : Line}

/-- A line that a question has no answer for may stand anywhere. -/
theorem Line.first?_insert
    {α : Type}
    {answer? : LineKind → Option α}
    (silent : answer? stray.kind = none)
    (above below : List Line) :
    Line.first? answer? (above ++ stray :: below.map (Line.renumber change)) =
      Line.first? answer? (above ++ below) := by
  induction above with
  | nil =>
    rw [List.nil_append, List.nil_append, Line.first?, Line.afterFirst?, silent]
    exact Line.first?_renumber change answer? below
  | cons line above hypothesis =>
    rw [List.cons_append, List.cons_append, Line.first?, Line.first?, Line.afterFirst?,
      Line.afterFirst?]
    cases answer? line.kind with
    | some answer => rfl
    | none => exact hypothesis

namespace Section

/-- Free text that ends above the line is what it was. -/
theorem description_insert
    (passed : ∃ line ∈ above, line.kind.platforms?.isSome ∨ line.kind.endsText = true)
    (others : List Line) :
    description (above ++ others) = description above := by
  rcases passed with ⟨line, member, ends⟩
  rw [description, description, List.takeWhile_append, if_neg]
  intro whole
  have kept := List.takeWhile_eq_self_iff.mp ((List.takeWhile_prefix _).eq_of_length whole)
  have plain := kept line member
  simp only [Bool.not_eq_true', Bool.or_eq_false_iff] at plain
  simp [plain.1, plain.2] at ends

/-- The table of inputs is the one below the first heading for it. -/
theorem arguments_cons
    (line : Line)
    (rest : List Line) :
    arguments (line :: rest) =
      if line.kind = .inputsHeading then InputsTable.arguments (rest.map Line.text)
      else arguments rest := by
  rw [arguments, arguments, inputTexts?, inputTexts?, Line.after?,
    Line.after?, Line.afterFirst?]
  by_cases heading : line.kind = .inputsHeading
  · simp [heading]
  · simp [heading]

/-- The arguments are what they were when the line stands in no table. -/
theorem arguments_insert
    (untabled : TablesEndAbove above below)
    (prose : stray.kind = .prose)
    (unrowed : InputsTable.isRow stray.text = false) :
    arguments (above ++ stray :: below.map (Line.renumber change)) =
      arguments (above ++ below) := by
  induction above with
  | nil =>
    rw [List.nil_append, List.nil_append, arguments_cons, if_neg (by simp [prose]),
      arguments_renumber]
  | cons line above hypothesis =>
    have later : TablesEndAbove above below := by
      intro index inside heading
      have ends := untabled (index + 1) (by simpa using inside) heading
      rw [List.drop_succ_cons, List.length_cons] at ends
      omega
    rw [List.cons_append, List.cons_append, arguments_cons, arguments_cons, hypothesis later]
    split
    · next heading =>
      have ends : InputsTable.extent (above.map Line.text ++ below.map Line.text) ≤
          (above.map Line.text).length := by
        have first := untabled 0 (by simp) heading
        simp only [Nat.zero_add, List.drop_succ_cons, List.drop_zero, List.map_append,
          List.length_cons, Nat.add_comm 1] at first
        simpa using first
      have texts : (below.map (Line.renumber change)).map Line.text = below.map Line.text := by
        simp [Function.comp_def]
      rw [List.map_append, List.map_append, List.map_cons, texts, InputsTable.arguments,
        InputsTable.arguments, InputsTable.rows?_insert unrowed ends]
    · rfl

/-- A test that runs a command is the same one with prose below its description. -/
theorem read_insert
    {name : Text}
    {number : Nat}
    {texts : List Text}
    (scanned : Scanned number texts above)
    (passed : ∃ line ∈ above, line.kind.platforms?.isSome ∨ line.kind.endsText = true)
    (untabled : TablesEndAbove above below)
    (prose : stray.kind = .prose)
    (unrowed : InputsTable.isRow stray.text = false)
    {test : AtomicTest}
    (known : read ⟨name, above ++ below⟩ = .ok test)
    {interpreter : Text}
    {cleanup : Option Text}
    (command : test.executor.kind = .command interpreter cleanup) :
    read ⟨name, above ++ stray :: below.map (Line.renumber change)⟩ = .ok test := by
  have strewn : Strewn change (above ++ below)
      (above ++ stray :: below.map (Line.renumber change)) :=
    scanned.strewn_append (.stray prose (.moved below))
  have closed := strewn.unclosedFence?_eq_none (unclosedFence?_of_read known)
  rcases exists_executor_of_read known with ⟨executor, found, rfl⟩
  have executors := strewn.readExecutor found command
  have platformless : stray.kind.platforms? = none := by
    rw [prose]
    rfl
  have guidless : stray.kind.guid? = none := by
    rw [prose]
    rfl
  rw [read_of_executor closed executors, test, test, strewn.readDependencies,
    description_insert passed, description_insert passed, arguments_insert untabled prose unrowed,
    Section.platforms, Section.platforms, guid?, guid?, Line.first?_insert platformless,
    Line.first?_insert guidless]

end Section

/-! ## Tests of a page -/

/-- Sections that make the same tests, one by one, make the same tests together. -/
theorem readTests_of_forall₂
    {parts others : List Section}
    (same : List.Forall₂ (fun part other => ∀ test, part.read = .ok test → other.read = .ok test)
      parts others)
    {tests : List AtomicTest}
    (known : readTests parts = .ok tests) :
    readTests others = .ok tests := by
  induction same generalizing tests with
  | nil => exact known
  | @cons part other parts others first following hypothesis =>
    rw [readTests] at known ⊢
    cases outcome : part.read with
    | error fault => simp [outcome] at known
    | ok test =>
      cases rest : readTests parts with
      | error fault => simp [outcome, rest, Except.map] at known
      | ok remaining =>
        rw [first test outcome]
        simpa [outcome, rest, hypothesis rest] using known

/-! ## A page with the line -/

/-- The lines in front are a scan by themselves unless a block reaches across their end. -/
theorem Scanned.front
    {number : Nat}
    {texts : List Text}
    {front back : List Line}
    (scanned : Scanned number texts (front ++ back))
    (outside : ∀ line ∈ back.head?, line.kind.isInside = false) :
    Scanned number (front.map Line.text) front := by
  cases back with
  | nil =>
    rw [List.append_nil] at scanned
    rwa [scanned.map_text]
  | cons line rest => exact scanned.before (outside line rfl)

/-- A place in a test of a page, below its description, where prose may be put in. -/
structure ProsePlace (page : Text) where
  before : List Line
  heading : Line
  above : List Line
  below : List Line
  scanned : scan page = before ++ heading :: (above ++ below)
  opens : heading.kind.testName?.isSome
  inTest : ∀ line ∈ above, line.kind.testName? = none
  described : ∃ line ∈ above, line.kind.platforms?.isSome ∨ line.kind.endsText = true
  outside : ∀ line ∈ below.head?, line.kind.isInside = false
  untabled : TablesEndAbove above (preamble below)

namespace ProsePlace

variable {page : Text}

/-- The lines of the page with one more line at the place. -/
def insert (place : ProsePlace page) (stray : Text) : List Text :=
  place.before.map Line.text ++
    place.heading.text :: (place.above.map Line.text ++ stray :: place.below.map Line.text)

/-- The sections of the page are those before the place, its own and those after it. -/
theorem sections_scan
    (place : ProsePlace page)
    {name : Text}
    (named : place.heading.kind.testName? = some name) :
    sections (scan page) =
      sections place.before ++
        ⟨name, place.above ++ preamble place.below⟩ :: sections place.below := by
  simp only [sections, preamble, place.scanned, divide_append_heading _ named,
    divide_append_of_free place.inTest]

/-- The test that belongs to the place is read from the lines around it. -/
theorem read_section
    (place : ProsePlace page)
    {name : Text}
    (named : place.heading.kind.testName? = some name)
    {tests : List AtomicTest}
    (known : readTests (sections (scan page)) = .ok tests)
    {test : AtomicTest}
    (inTest : tests[(sections place.before).length]? = some test) :
    Section.read ⟨name, place.above ++ preamble place.below⟩ = .ok test := by
  have position : (sections (scan page))[(sections place.before).length]? =
      some ⟨name, place.above ++ preamble place.below⟩ := by
    simp [place.sections_scan named]
  rcases (readTests_eq_ok known).2 _ _ position with ⟨same, found, own⟩
  rw [inTest] at found
  cases found
  exact own

/-- With a line of prose at the place only the place's own section changes. -/
theorem sections_insert
    (place : ProsePlace page)
    {name : Text}
    (named : place.heading.kind.testName? = some name)
    (change : Nat → Nat)
    {stray : Line}
    (prose : stray.kind = .prose) :
    sections (place.before ++
        place.heading :: (place.above ++ stray :: place.below.map (Line.renumber change))) =
      sections place.before ++
        ⟨name, place.above ++ stray :: (preamble place.below).map (Line.renumber change)⟩ ::
          (sections place.below).map (Section.renumber change) := by
  have unnamed : stray.kind.testName? = none := by
    rw [prose]
    rfl
  simp only [sections, preamble, divide_append_heading _ named, divide_append_of_free place.inTest,
    divide, unnamed, divide_renumber]

theorem isTestHeading_heading (place : ProsePlace page) :
    isTestHeading place.heading.text = true := by
  have member : place.heading ∈ scanFrom 1 none page.lines := by
    have scanned : scanFrom 1 none page.lines = _ := place.scanned
    simp [scanned]
  rw [← isSome_testName?_of_mem_scanFrom member, place.opens]

/-- Whatever stands below the place, the scan down to it is the same and starts anew there. -/
theorem exists_scanFrom
    (place : ProsePlace page)
    (closed : ∀ line ∈ place.above, line.kind.isUnclosed = false) :
    ∃ first number, Scanned first (place.above.map Line.text) place.above ∧
      place.below = scanFrom number none (place.below.map Line.text) ∧
      ∀ back, scanFrom 1 none (place.before.map Line.text ++
          place.heading.text :: (place.above.map Line.text ++ back)) =
        place.before ++ place.heading :: (place.above ++ scanFrom number none back) := by
  -- The heading cuts the page whatever follows it, so only its own lines matter below.
  have cut : ∀ back, scanFrom 1 none
      (place.before.map Line.text ++ place.heading.text :: back) = _ := fun back =>
    (scanFrom_append_heading 1 _ place.isTestHeading_heading back).trans
      (congrArg _ (scanFrom_line _ back (fenceLanguage?_of_isTestHeading
        place.isTestHeading_heading)))
  have whole : scanFrom 1 none (place.before.map Line.text ++
      place.heading.text :: (place.above.map Line.text ++ place.below.map Line.text)) =
        place.before ++ place.heading :: (place.above ++ place.below) := by
    have texts := map_text_scanFrom 1 none page.lines
    rw [← scan, place.scanned] at texts
    rw [← place.scanned, scan, ← texts]
    simp
  have count := congrArg List.length (map_text_scanFrom 1 none (place.before.map Line.text))
  rw [List.length_map, List.length_map] at count
  rw [cut] at whole
  rcases List.append_inj whole count with ⟨before, rest⟩
  rcases List.cons.inj rest with ⟨heading, following⟩
  generalize 1 + (place.before.map Line.text).length + 1 = number at cut following
  -- No fence above the place is open, so the scan goes on behind them as if it began there.
  have own := scanned_scanFrom number (place.above.map Line.text ++ place.below.map Line.text)
  rw [following] at own
  have scanned := own.front place.outside
  have above := scanned.eq_scanFrom
  have fences : FencesClosed (place.above.map Line.text) := by
    refine forall_kind_scanFrom (·.isUnclosed = false) (?_ : ∀ line ∈ scanFrom number none _, _) 1
    rwa [← above]
  rw [scanFrom_append fences, ← above] at following
  refine ⟨number, number + (place.above.map Line.text).length, scanned,
    (List.append_cancel_left following).symm, fun back => ?_⟩
  rw [cut, scanFrom_append fences, ← above, before, heading]

/-- Every line keeps its kind, and those below the place move on by one. -/
theorem exists_scan_insert
    (place : ProsePlace page)
    (closed : ∀ line ∈ place.above, line.kind.isUnclosed = false)
    {stray : Text}
    (strayLine : IsStrayLine stray)
    {other : Text}
    (lines : other.lines = place.insert stray) :
    ∃ first number, Scanned first (place.above.map Line.text) place.above ∧
      scan other = place.before ++ place.heading :: (place.above ++
        ⟨number, stray, .prose⟩ :: place.below.map (Line.renumber (· + 1))) := by
  rcases place.exists_scanFrom closed with ⟨first, number, above, below, scanned⟩
  refine ⟨first, number, above, ?_⟩
  rw [scan, lines, insert, scanned, scanFrom_line _ _ strayLine.fenceLanguage?_eq_none,
    strayLine.classify_eq_prose, scanFrom_add, ← below]

end ProsePlace

/--
Stray prose is passed over.  With one more line of prose in a test that runs a command,
at a place below the test's description, a page makes the same technique.
-/
theorem read_insert_stray
    {page : Text}
    {technique : Technique}
    (accepted : read page = .ok technique)
    (place : ProsePlace page)
    {test : AtomicTest}
    (inTest : technique.tests[(sections place.before).length]? = some test)
    {interpreter : Text}
    {cleanup : Option Text}
    (command : test.executor.kind = .command interpreter cleanup)
    {stray : Text}
    (strayLine : IsStrayLine stray)
    {other : Text}
    (lines : other.lines = place.insert stray) :
    read other = .ok technique := by
  rcases read_eq_ok accepted with ⟨title, description, tests⟩
  rcases Option.isSome_iff_exists.mp place.opens with ⟨name, named⟩
  have own := place.read_section named tests inTest
  have closed : ∀ line ∈ place.above, line.kind.isUnclosed = false := fun line member =>
    Section.isUnclosed_of_read own line (List.mem_append_left _ member)
  rcases place.exists_scan_insert closed strayLine lines with ⟨first, number, above, inserted⟩
  have sameTests : readTests (sections (scan other)) = .ok technique.tests := by
    refine readTests_of_forall₂ ?_ tests
    rw [place.sections_scan named, inserted, place.sections_insert named _ rfl]
    refine List.rel_append (List.forall₂_same.mpr fun _ _ _ known => known) (.cons ?_ ?_)
    · intro same known
      have equal : test = same := Except.ok.inj (own.symm.trans known)
      subst equal
      exact Section.read_insert above place.described place.untabled rfl strayLine.unrowed own
        command
    · rw [List.forall₂_map_right_iff, List.forall₂_same]
      intro part member test known
      rw [Section.renumber, Section.read_renumber, known]
      rfl
  have sameTitle : Line.first? LineKind.title? (scan other) =
      some (technique.identifier, technique.name) := by
    rw [← title, inserted, place.scanned]
    have silent : LineKind.prose.title? = none := rfl
    simpa using Line.first?_insert silent (place.before ++ place.heading :: place.above) place.below
  have samePreamble : preamble (scan other) = preamble (scan page) := by
    rw [inserted, place.scanned, preamble, preamble, divide_append_heading _ named,
      divide_append_heading _ named]
  rw [read, readLines, sameTitle, sameTests, samePreamble, description]
  rfl

/-- A page whose test has a table of inputs. -/
def tabledPage : Text :=
  "# T1000 - Stray\n## Atomic Test #1 - One\n**Supported Platforms:** Linux\n".toList ++
    "#### Inputs:\n| Name | Description | Type | Default Value |\n|---|---|---|---|\n".toList ++
      "| file | A file | path | a.txt |\n".toList ++
        "#### Attack Commands: Run with `sh`!\n```sh\nid\n```\n".toList

/-- The test of `tabledPage`. -/
def tabledTest : AtomicTest where
  name := "One".toList
  description := []
  platforms := ["linux".toList]
  executor := ⟨.command "sh".toList none, false, "id".toList, .separate⟩
  arguments := InputsTable.arguments
    ["|a|b|c|d|".toList, "|---|".toList, "| file | A file | path | a.txt |".toList]
  dependencies := []
  dependencyExecutor := none
  guid := none

/-- The place right below the table of `tabledPage`. -/
def placeBelowTable : ProsePlace tabledPage where
  before := [⟨1, "# T1000 - Stray".toList, .title "T1000".toList "Stray".toList⟩]
  heading := ⟨2, "## Atomic Test #1 - One".toList, .testHeading "One".toList⟩
  above := [
    ⟨3, "**Supported Platforms:** Linux".toList, .platforms "Linux".toList⟩,
    ⟨4, "#### Inputs:".toList, .inputsHeading⟩,
    ⟨5, "| Name | Description | Type | Default Value |".toList, .prose⟩,
    ⟨6, "|---|---|---|---|".toList, .prose⟩,
    ⟨7, "| file | A file | path | a.txt |".toList, .prose⟩]
  below := [
    ⟨8, "#### Attack Commands: Run with `sh`!".toList, .commandHeading "sh".toList false⟩,
    ⟨9, "```sh".toList, .fenceOpen "sh".toList true⟩,
    ⟨10, "id".toList, .code⟩,
    ⟨11, "```".toList, .fenceClose⟩]
  scanned := by decide +kernel
  opens := rfl
  inTest := by decide
  described := ⟨_, List.mem_cons_self .., Or.inl rfl⟩
  outside := by decide
  untabled := by decide +kernel

/-- A line that looks like a closing fence, though none is open. -/
def strayFence : Text := "  ``` or so".toList

/-- `tabledPage` with the line below its table. -/
def strayPage : Text :=
  Text.joinLines (placeBelowTable.insert strayFence)

/-- `strayFence` changes nothing below the table of `tabledPage`. -/
theorem read_insert_strayFence :
    IsStrayLine strayFence ∧ strayPage.lines = placeBelowTable.insert strayFence ∧
      read tabledPage = .ok ⟨"T1000".toList, "Stray".toList, none, [tabledTest]⟩ ∧
      read strayPage = .ok ⟨"T1000".toList, "Stray".toList, none, [tabledTest]⟩ :=
  have strayLine : IsStrayLine strayFence := ⟨⟨strayFence, by decide +kernel⟩, by decide +kernel⟩
  have lines : strayPage.lines = placeBelowTable.insert strayFence := by decide +kernel
  have accepted : read tabledPage =
      .ok ⟨"T1000".toList, "Stray".toList, none, [tabledTest]⟩ := by decide +kernel
  have inTest : [tabledTest][(sections placeBelowTable.before).length]? = some tabledTest := by
    decide +kernel
  ⟨strayLine, lines, accepted,
    read_insert_stray accepted placeBelowTable inTest rfl strayLine lines⟩

end TechniquePages.Page
