import TechniquePages.Proofs.Page.Marking

/-!
# Sections of a scan

A page is cut before its test headings, and each piece is scanned by itself: the
sections of the page are the scans of the pieces.  Nothing in the preamble or in
another section has a part in this, since no fenced block reaches across a test
heading.
-/

namespace TechniquePages.Page

/-- A test heading and the lines from it to the next one, as they stand on the page. -/
structure Passage where
  heading : Text
  body : List Text

namespace Passage

/-- All lines of a passage. -/
def texts (passage : Passage) : List Text :=
  passage.heading :: passage.body

/-- The first line opens a test, and no other line does. -/
def IsProper (passage : Passage) : Prop :=
  isTestHeading passage.heading = true ∧ ∀ text ∈ passage.body, isTestHeading text = false

/-- The name in the heading. -/
def name (passage : Passage) : Text :=
  ((classify passage.heading).testName?).getD []

end Passage

/-- The sections of passages whose first line has a number. -/
def sectionsFrom (number : Nat) : List Passage → List Section
  | [] => []
  | passage :: rest =>
    ⟨passage.name, scanFrom (number + 1) none passage.body⟩ ::
      sectionsFrom (number + 1 + passage.body.length) rest

/-- A line of a scan opens a test if and only if its kind says so, wherever it stands. -/
theorem isSome_testName?_of_mem_scanFrom
    {number : Nat}
    {texts : List Text}
    {line : Line}
    (member : line ∈ scanFrom number none texts) :
    line.kind.testName?.isSome = isTestHeading line.text := by
  have fenceless : ∀ {text language : Text},
      Marker.fenceLanguage? text = some language → isTestHeading text = false := by
    intro text language fenced
    rw [← Bool.not_eq_true]
    intro opens
    simp [fenceLanguage?_of_isTestHeading opens] at fenced
  have scanned := scanned_scanFrom number texts
  generalize scanFrom number none texts = lines at scanned member
  induction scanned with
  | nil number => simp at member
  | line unfenced following hypothesis =>
    rcases List.mem_cons.mp member with rfl | later
    · exact testName?_classify _
    · exact hypothesis later
  | unclosed fenced endless following hypothesis =>
    rcases List.mem_cons.mp member with rfl | later
    · exact (fenceless fenced).symm
    · exact hypothesis later
  | block fenced plain ends following hypothesis =>
    rw [List.mem_cons, List.mem_append, List.mem_cons] at member
    rcases member with rfl | code | rfl | later
    · exact (fenceless fenced).symm
    · rw [kind_of_mem_codeLines code, (plain _ (text_mem_of_mem_codeLines code)).2]
      rfl
    · exact ends.2.symm
    · exact hypothesis later

/-- Where no line opens a test, the scan has no test heading. -/
theorem testName?_of_mem_scanFrom
    {number : Nat}
    {texts : List Text}
    (free : ∀ text ∈ texts, isTestHeading text = false)
    {line : Line}
    (member : line ∈ scanFrom number none texts) :
    line.kind.testName? = none := by
  have inTexts : line.text ∈ (scanFrom number none texts).map Line.text :=
    List.mem_map_of_mem member
  rw [map_text_scanFrom] at inTexts
  have unnamed := isSome_testName?_of_mem_scanFrom member
  rw [free line.text inTexts] at unnamed
  simpa using unnamed

/-- Where the scan has no test heading, no line opens a test, not even in code. -/
theorem isTestHeading_of_mem
    {number : Nat}
    {texts : List Text}
    (unnamed : ∀ line ∈ scanFrom number none texts, line.kind.testName? = none) :
    ∀ text ∈ texts, isTestHeading text = false := by
  intro text member
  rw [← map_text_scanFrom number none texts] at member
  rcases List.mem_map.mp member with ⟨line, inScan, rfl⟩
  rw [← isSome_testName?_of_mem_scanFrom inScan, unnamed line inScan]
  rfl

/-- Lines without a test heading go to the preamble of what follows. -/
theorem divide_append_of_free
    {front : List Line}
    (free : ∀ line ∈ front, line.kind.testName? = none)
    (back : List Line) :
    divide (front ++ back) = (front ++ (divide back).1, (divide back).2) := by
  induction front with
  | nil => rfl
  | cons line rest hypothesis =>
    rw [List.cons_append, divide,
      hypothesis fun other member => free other (List.mem_cons_of_mem _ member),
      free line (List.mem_cons_self ..)]
    rfl

/-- A test heading ends the section above it and opens one of its own. -/
theorem divide_append_heading
    (front : List Line)
    {heading : Line}
    {name : Text}
    (named : heading.kind.testName? = some name)
    (back : List Line) :
    divide (front ++ heading :: back) =
      ((divide front).1, (divide front).2 ++ ⟨name, (divide back).1⟩ :: (divide back).2) := by
  induction front with
  | nil => simp only [List.nil_append, divide, named]
  | cons line rest hypothesis =>
    rw [List.cons_append, divide, divide, hypothesis]
    cases line.kind.testName? <;> rfl

/-- The sections of a scanned page are the scans of its passages. -/
theorem divide_scanFrom
    (number : Nat)
    {front : List Text}
    {passages : List Passage}
    (free : ∀ text ∈ front, isTestHeading text = false)
    (proper : ∀ passage ∈ passages, passage.IsProper) :
    divide (scanFrom number none (front ++ passages.flatMap Passage.texts)) =
      (scanFrom number none front, sectionsFrom (number + front.length) passages) := by
  induction passages generalizing number front with
  | nil =>
    have unopened : ∀ line ∈ scanFrom number none front, line.kind.testName? = none :=
      fun line member => testName?_of_mem_scanFrom free member
    simpa [sectionsFrom] using divide_append_of_free unopened []
  | cons passage rest hypothesis =>
    have opened := (proper passage (List.mem_cons_self ..)).1
    have named : (classify passage.heading).testName? = some passage.name := by
      have isSome : (classify passage.heading).testName?.isSome := by
        rw [testName?_classify, opened]
      rcases Option.isSome_iff_exists.mp isSome with ⟨name, known⟩
      simp [Passage.name, known]
    have tail := hypothesis (number + front.length + 1)
      (proper passage (List.mem_cons_self ..)).2
      fun other member => proper other (List.mem_cons_of_mem _ member)
    rw [List.flatMap_cons, Passage.texts, List.cons_append,
      scanFrom_append_heading number front opened,
      divide_append_of_free fun line member => testName?_of_mem_scanFrom free member,
      scanFrom_line _ _ (fenceLanguage?_of_isTestHeading opened), divide, tail, named]
    simp [sectionsFrom]

/-- A page has as many sections as lines that open a test. -/
theorem length_sections_scanFrom
    (number : Nat)
    (texts : List Text) :
    (sections (scanFrom number none texts)).length = texts.countP isTestHeading := by
  have headings : ∀ lines : List Line,
      (sections lines).length = lines.countP fun line => line.kind.testName?.isSome := by
    intro lines
    induction lines with
    | nil => rfl
    | cons line rest hypothesis =>
      unfold sections at hypothesis ⊢
      rw [divide, List.countP_cons, ← hypothesis]
      cases line.kind.testName? <;> simp
  have ofLines : texts.countP isTestHeading =
      (scanFrom number none texts).countP (isTestHeading ∘ Line.text) := by
    rw [← List.countP_map, map_text_scanFrom]
  rw [headings, ofLines]
  refine List.countP_congr fun line member => ?_
  rw [isSome_testName?_of_mem_scanFrom member]
  rfl

/-! ## Reading a section -/

/-- An executor that is read is one of steps, or one of the first block below its heading. -/
theorem ExecutorBlock.read_eq_ok
    {test : Text}
    {body : List Line}
    {executor : Executor}
    (known : read test body = .ok executor) :
    (∃ elevated rest, Line.afterFirst? heading? body = some (.manual elevated, rest) ∧
        executor = ⟨.manual, elevated, steps (rest.takeWhile fun line => !line.kind.endsText),
          .separate⟩) ∨
      ∃ printed elevated rest block,
        Line.afterFirst? heading? body = some (.command printed elevated, rest) ∧
          FencedBlock.first? rest = some block ∧
            executor = ⟨.command (storedName printed) (cleanup? block.rest), elevated,
              block.content, .separate⟩ := by
  rw [read] at known
  split at known
  next absent => cases known
  next elevated rest found => exact Or.inl ⟨elevated, rest, found, (Except.ok.inj known).symm⟩
  next printed elevated rest found =>
    split at known
    next absent => cases known
    next block first =>
      exact Or.inr ⟨printed, elevated, rest, block, found, first, (Except.ok.inj known).symm⟩

namespace Section

/-- The test that a section describes, given its executor. -/
def test
    (part : Section)
    (executor : Executor) : AtomicTest where
  name := part.name
  description := description part.body
  platforms := platforms part.body
  executor := executor
  arguments := arguments part.body
  dependencies := (DependencyBlock.read executor.name part.body).2
  dependencyExecutor := (DependencyBlock.read executor.name part.body).1
  guid := guid? part.body

/-- A section that is read has an executor, and its other parts are found by themselves. -/
theorem exists_executor_of_read
    {part : Section}
    {test : AtomicTest}
    (known : part.read = .ok test) :
    ∃ executor, ExecutorBlock.read part.name part.body = .ok executor ∧
      part.test executor = test := by
  rw [read] at known
  split at known
  · cases known
  · split at known
    · cases known
    · rename_i executor outcome
      exact ⟨executor, outcome, Except.ok.inj known⟩

theorem unclosedFence?_of_read
    {part : Section}
    {test : AtomicTest}
    (known : part.read = .ok test) :
    unclosedFence? part.body = none := by
  rw [read] at known
  split at known
  · cases known
  · assumption

theorem isUnclosed_of_read
    {part : Section}
    {test : AtomicTest}
    (known : part.read = .ok test) :
    ∀ line ∈ part.body, line.kind.isUnclosed = false := by
  have closed := unclosedFence?_of_read known
  simpa [unclosedFence?] using closed

/-- A section whose fences are closed is read when its executor is. -/
theorem read_of_executor
    {part : Section}
    (closed : unclosedFence? part.body = none)
    {executor : Executor}
    (known : ExecutorBlock.read part.name part.body = .ok executor) :
    part.read = .ok (part.test executor) := by
  rw [read, closed, known]
  rfl

end Section

/-! ## Reading sections in order -/

/-- Tests are read when every section can be, and each is the test of its section. -/
theorem readTests_eq_ok
    {parts : List Section}
    {tests : List AtomicTest}
    (success : readTests parts = .ok tests) :
    tests.length = parts.length ∧
      ∀ (index : Nat) (part : Section), parts[index]? = some part →
        ∃ test, tests[index]? = some test ∧ part.read = .ok test := by
  induction parts generalizing tests with
  | nil =>
    cases success
    exact ⟨rfl, by simp⟩
  | cons first rest hypothesis =>
    rw [readTests] at success
    cases outcome : first.read with
    | error fault => simp [outcome] at success
    | ok test =>
      cases others : readTests rest with
      | error fault => simp [outcome, others, Except.map] at success
      | ok remaining =>
        have whole : test :: remaining = tests := by
          simpa [outcome, others, Except.map] using success
        rcases hypothesis others with ⟨length, each⟩
        subst whole
        refine ⟨by simp [length], ?_⟩
        intro index part found
        cases index with
        | zero =>
          have same : first = part := by simpa using found
          exact ⟨test, by simp, same ▸ outcome⟩
        | succ index => simpa using each index part (by simpa using found)

/-- Tests are not read when a section cannot be, and the fault is that of the first one. -/
theorem readTests_eq_error
    {parts : List Section}
    {fault : Fault}
    (failure : readTests parts = .error fault) :
    ∃ (index : Nat) (part : Section), parts[index]? = some part ∧ part.read = .error fault ∧
      ∀ earlier < index, ∀ other : Section, parts[earlier]? = some other →
        ∃ test, other.read = .ok test := by
  induction parts with
  | nil => simp [readTests] at failure
  | cons first rest hypothesis =>
    rw [readTests] at failure
    cases outcome : first.read with
    | error known =>
      have same : known = fault := by simpa [outcome] using failure
      exact ⟨0, first, by simp, same ▸ outcome, by simp⟩
    | ok test =>
      cases others : readTests rest with
      | ok remaining => simp [outcome, others, Except.map] at failure
      | error known =>
        have same : known = fault := by simpa [outcome, others, Except.map] using failure
        rcases hypothesis (same ▸ others) with ⟨index, part, found, unread, before⟩
        refine ⟨index + 1, part, by simpa using found, unread, ?_⟩
        intro earlier less other known
        cases earlier with
        | zero =>
          have same : first = other := by simpa using known
          exact ⟨test, same ▸ outcome⟩
        | succ earlier => exact before earlier (by omega) other (by simpa using known)

/-- Every test that is read is that of a section. -/
theorem exists_section_of_mem
    {parts : List Section}
    {tests : List AtomicTest}
    (success : readTests parts = .ok tests)
    {test : AtomicTest}
    (member : test ∈ tests) :
    ∃ part ∈ parts, part.read = .ok test := by
  rcases readTests_eq_ok success with ⟨length, each⟩
  rcases List.getElem?_of_mem member with ⟨index, found⟩
  have within : index < parts.length := length ▸ (List.getElem?_eq_some_iff.mp found).1
  have part := List.getElem?_eq_getElem within
  rcases each index _ part with ⟨same, atIndex, ofPart⟩
  rw [found] at atIndex
  cases atIndex
  exact ⟨_, List.mem_of_getElem? part, ofPart⟩

/-- The parts of a technique are found by themselves: its title, its description and its tests. -/
theorem read_eq_ok
    {page : Text}
    {technique : Technique}
    (known : read page = .ok technique) :
    Line.first? LineKind.title? (scan page) = some (technique.identifier, technique.name) ∧
      techniqueDescription? (preamble (scan page)) = technique.description ∧
        readTests (sections (scan page)) = .ok technique.tests := by
  rw [read, readLines] at known
  split at known
  · cases known
  · rename_i identifier name title
    cases outcome : readTests (sections (scan page)) with
    | error fault => simp [outcome, Except.map] at known
    | ok tests =>
      simp only [outcome, Except.map, Except.ok.injEq] at known
      subst known
      exact ⟨title, rfl, rfl⟩

/-- The tests of a page are those of its sections. -/
theorem readTests_of_read
    {page : Text}
    {technique : Technique}
    (known : read page = .ok technique) :
    readTests (sections (scan page)) = .ok technique.tests :=
  (read_eq_ok known).2.2

theorem length_sectionsFrom
    (number : Nat)
    (passages : List Passage) :
    (sectionsFrom number passages).length = passages.length := by
  induction passages generalizing number with
  | nil => rfl
  | cons passage rest hypothesis => simp [sectionsFrom, hypothesis]

/-- A section's lines are numbered from the lines before its passage. -/
theorem getElem?_sectionsFrom
    (number : Nat)
    (passages : List Passage)
    (index : Nat) :
    (sectionsFrom number passages)[index]? =
      passages[index]?.map fun passage =>
        ⟨passage.name,
          scanFrom (number + ((passages.take index).flatMap Passage.texts).length + 1) none
            passage.body⟩ := by
  induction passages generalizing number index with
  | nil => simp [sectionsFrom]
  | cons passage rest hypothesis =>
    cases index with
    | zero => simp [sectionsFrom]
    | succ index =>
      rw [sectionsFrom, List.getElem?_cons_succ, hypothesis, List.getElem?_cons_succ]
      simp [Passage.texts, Nat.add_assoc, Nat.add_comm, Nat.add_left_comm]

end TechniquePages.Page
