import TechniquePages.Proofs.Page.Fences
import TechniquePages.Proofs.Page.Independence

/-!
# Which pages can be read

A page is refused for one of four reasons, and for no other.  It has no title; or
one of its sections opens a block without an end, has no executor, or has a
command executor without a command below its heading.  A section with several of
these faults gives the first in this order, and a page with several such sections
gives the fault of the first one.

The conditions are stated of the scanned lines alone.  That a block which is
opened has its end inside its own section is a property of scans, and it is what
makes the third reason as simple as it is.
-/

namespace TechniquePages.Page

/-! ## Looking for a line -/

/-- The first answer splits the lines at the line that gives it. -/
theorem Line.afterFirst?_eq_some_iff
    {α : Type}
    (answer? : LineKind → Option α)
    (lines : List Line)
    (answer : α)
    (rest : List Line) :
    Line.afterFirst? answer? lines = some (answer, rest) ↔
      ∃ before line, lines = before ++ line :: rest ∧
        (∀ other ∈ before, answer? other.kind = none) ∧ answer? line.kind = some answer := by
  induction lines with
  | nil => simp [Line.afterFirst?]
  | cons first others hypothesis =>
    rw [Line.afterFirst?]
    cases known : answer? first.kind with
    | some own =>
      simp only [Option.some.injEq, Prod.mk.injEq]
      constructor
      · rintro ⟨rfl, rfl⟩
        exact ⟨[], first, rfl, by simp, known⟩
      · rintro ⟨before, line, split, silent, found⟩
        cases before with
        | nil =>
          rw [List.nil_append, List.cons.injEq] at split
          rw [← split.1, known] at found
          exact ⟨Option.some.inj found, split.2⟩
        | cons head tail =>
          rw [List.cons_append, List.cons.injEq] at split
          have unanswered := silent head (List.mem_cons_self ..)
          simp [← split.1, known] at unanswered
    | none =>
      simp only [hypothesis]
      constructor
      · rintro ⟨before, line, rfl, silent, found⟩
        exact ⟨first :: before, line, rfl, List.forall_mem_cons.mpr ⟨known, silent⟩, found⟩
      · rintro ⟨before, line, split, silent, found⟩
        cases before with
        | nil =>
          rw [List.nil_append, List.cons.injEq] at split
          simp [← split.1, known] at found
        | cons head tail =>
          rw [List.cons_append, List.cons.injEq] at split
          exact ⟨tail, line, split.2, (List.forall_mem_cons.mp silent).2, found⟩

theorem Line.afterFirst?_eq_none_iff
    {α : Type}
    (answer? : LineKind → Option α)
    (lines : List Line) :
    Line.afterFirst? answer? lines = none ↔ ∀ line ∈ lines, answer? line.kind = none := by
  induction lines with
  | nil => simp [Line.afterFirst?]
  | cons first others hypothesis =>
    rw [Line.afterFirst?]
    cases known : answer? first.kind with
    | some own => simp [known]
    | none => simp [known, hypothesis]

/-! ## Blocks below a heading -/

theorem FencedBlock.isSome_untilClose?_iff (lines : List Line) :
    (untilClose? lines).isSome ↔ ∃ line ∈ lines, line.kind = .fenceClose := by
  induction lines with
  | nil => simp [untilClose?]
  | cons line rest hypothesis =>
    rw [untilClose?]
    by_cases closes : line.kind = .fenceClose
    · simp [closes]
    · simp [closes, hypothesis]

/-- The line opens a fenced block that has an end. -/
def LineKind.IsBlockStart (kind : LineKind) : Prop :=
  ∃ language, kind = .fenceOpen language true

theorem not_isBlockStart_classify (text : Text) : ¬ (classify text).IsBlockStart := by
  rintro ⟨language, opens⟩
  have unfenced := isFenced_classify text
  rw [opens] at unfenced
  cases unfenced

theorem FencedBlock.opens?_eq_some_iff (kind : LineKind) :
    opens? kind = some () ↔ kind.IsBlockStart := by
  unfold opens? LineKind.IsBlockStart
  split
  · simp
  · rename_i other
    simp only [reduceCtorEq, false_iff, not_exists]
    exact other

theorem FencedBlock.opens?_eq_none
    {kind : LineKind}
    (unopened : ¬ kind.IsBlockStart) :
    opens? kind = none := by
  rw [Option.eq_none_iff_forall_ne_some]
  rintro ⟨⟩ opens
  exact unopened ((opens?_eq_some_iff _).mp opens)

/-- In the lines of a scan from some line on, a block is found where one starts. -/
theorem FencedBlock.isSome_first?_iff
    {number : Nat}
    {texts : List Text}
    {before lines : List Line}
    (split : scanFrom number none texts = before ++ lines) :
    (first? lines).isSome ↔ ∃ line ∈ lines, line.kind.IsBlockStart := by
  constructor
  · intro found
    rcases Option.isSome_iff_exists.mp found with ⟨block, known⟩
    simp only [first?, Option.bind_eq_bind, Option.bind_eq_some_iff] at known
    rcases known with ⟨⟨⟨⟩, inside⟩, opened, -⟩
    rcases (Line.afterFirst?_eq_some_iff _ _ _ _).mp opened with ⟨front, line, rfl, -, opens⟩
    exact ⟨line, by simp, (opens?_eq_some_iff _).mp opens⟩
  · rintro ⟨line, member, starts⟩
    cases opened : Line.afterFirst? opens? lines with
    | none =>
      have silent := (Line.afterFirst?_eq_none_iff _ _).mp opened line member
      rw [(opens?_eq_some_iff _).mpr starts] at silent
      cases silent
    | some answer =>
      rcases answer with ⟨⟨⟩, inside⟩
      rcases (Line.afterFirst?_eq_some_iff _ _ _ _).mp opened with ⟨front, opening, rfl, -, opens⟩
      rcases (opens?_eq_some_iff _).mp opens with ⟨language, kind⟩
      rw [← List.append_assoc] at split
      have closed := (isSome_untilClose?_iff inside).mpr (exists_fenceClose split kind)
      rcases Option.isSome_iff_exists.mp closed with ⟨⟨code, rest⟩, ends⟩
      simp [first?, opened, ends]

/-! ## Faults of a section -/

/-- The line is a heading of an executor. -/
def LineKind.IsExecutorHeading (kind : LineKind) : Prop :=
  (∃ elevated, kind = .manualHeading elevated) ∨
    ∃ executor elevated, kind = .commandHeading executor elevated

theorem ExecutorBlock.heading?_eq_none_iff (kind : LineKind) :
    heading? kind = none ↔ ¬ kind.IsExecutorHeading := by
  cases kind <;> simp [heading?, LineKind.IsExecutorHeading]

theorem ExecutorBlock.heading?_eq_command_iff
    (kind : LineKind)
    (executor : Text)
    (elevated : Bool) :
    heading? kind = some (.command executor elevated) ↔ kind = .commandHeading executor elevated := by
  cases kind <;> simp [heading?]

namespace Section

/-- Every block that the section opens has its end there. -/
def IsClosed (part : Section) : Prop :=
  ∀ line ∈ part.body, line.kind.isUnclosed = false

/-- The section says how the test is carried out. -/
def HasExecutor (part : Section) : Prop :=
  ∃ line ∈ part.body, line.kind.IsExecutorHeading

/-- The first executor heading asks for a command, and no block starts below it. -/
def LacksCommand (part : Section) : Prop :=
  ∃ before heading after, part.body = before ++ heading :: after ∧
    (∀ line ∈ before, ¬ line.kind.IsExecutorHeading) ∧
      (∃ executor elevated, heading.kind = .commandHeading executor elevated) ∧
        ∀ line ∈ after, ¬ line.kind.IsBlockStart

/-- The section has a fault, of whatever kind. -/
def IsBad (part : Section) : Prop :=
  ¬ part.IsClosed ∨ ¬ part.HasExecutor ∨ part.LacksCommand

/-- The fault of a section: the first of its faults in this order. -/
inductive HasFault (part : Section) : Fault → Prop where
  | unclosedFence
    {before after : List Line}
    {line : Line}
    (split : part.body = before ++ line :: after)
    (first : ∀ other ∈ before, other.kind.isUnclosed = false)
    (opens : line.kind.isUnclosed = true) :
    HasFault part (.unclosedFence line.number)
  | missingExecutor
    (closed : part.IsClosed)
    (absent : ¬ part.HasExecutor) :
    HasFault part (.missingExecutor part.name)
  | missingCommand
    (closed : part.IsClosed)
    (lacking : part.LacksCommand) :
    HasFault part (.missingCommand part.name)

theorem unclosedFence?_eq_none_iff (part : Section) :
    unclosedFence? part.body = none ↔ part.IsClosed := by
  simp [unclosedFence?, IsClosed]

theorem unclosedFence?_eq_some_iff
    (part : Section)
    (number : Nat) :
    unclosedFence? part.body = some number ↔
      ∃ before line after, part.body = before ++ line :: after ∧
        (∀ other ∈ before, other.kind.isUnclosed = false) ∧ line.kind.isUnclosed = true ∧
          line.number = number := by
  rw [unclosedFence?, Option.map_eq_some_iff]
  constructor
  · rintro ⟨line, known, same⟩
    rcases List.find?_eq_some_iff_append.mp known with ⟨opens, before, after, split, first⟩
    exact ⟨before, line, after, split, by simpa using first, opens, same⟩
  · rintro ⟨before, line, after, split, first, opens, same⟩
    refine ⟨line, List.find?_eq_some_iff_append.mpr ⟨opens, before, after, split, ?_⟩, same⟩
    simpa using first

theorem hasExecutor_iff (part : Section) :
    part.HasExecutor ↔ Line.afterFirst? ExecutorBlock.heading? part.body ≠ none := by
  rw [ne_eq, Line.afterFirst?_eq_none_iff]
  simp only [HasExecutor, ExecutorBlock.heading?_eq_none_iff, not_forall, not_not, exists_prop]

/-- In a scan, no command is found where none starts. -/
theorem lacksCommand_iff
    {part : Section}
    {number : Nat}
    {texts : List Text}
    (scanned : part.body = scanFrom number none texts) :
    part.LacksCommand ↔
      ∃ executor elevated rest,
        Line.afterFirst? ExecutorBlock.heading? part.body =
          some (.command executor elevated, rest) ∧ FencedBlock.first? rest = none := by
  have unfound : ∀ {before rest : List Line} {heading : Line},
      part.body = before ++ heading :: rest →
        (FencedBlock.first? rest = none ↔ ∀ line ∈ rest, ¬ line.kind.IsBlockStart) := by
    intro before rest heading split
    rw [scanned, ← List.singleton_append, ← List.append_assoc] at split
    rw [← Option.not_isSome_iff_eq_none, FencedBlock.isSome_first?_iff split]
    simp
  constructor
  · rintro ⟨before, heading, after, split, first, ⟨executor, elevated, command⟩, absent⟩
    refine ⟨executor, elevated, after, ?_, (unfound split).mpr absent⟩
    rw [Line.afterFirst?_eq_some_iff]
    exact ⟨before, heading, split,
      fun line member => (ExecutorBlock.heading?_eq_none_iff _).mpr (first line member),
      (ExecutorBlock.heading?_eq_command_iff _ _ _).mpr command⟩
  · rintro ⟨executor, elevated, after, found, none⟩
    rcases (Line.afterFirst?_eq_some_iff _ _ _ _).mp found with
      ⟨before, heading, split, first, command⟩
    exact ⟨before, heading, after, split,
      fun line member => (ExecutorBlock.heading?_eq_none_iff _).mp (first line member),
      ⟨executor, elevated, (ExecutorBlock.heading?_eq_command_iff _ _ _).mp command⟩,
      (unfound split).mp none⟩

/-- The executor of a scanned section is not read for one of two reasons. -/
theorem executor_eq_error_iff
    {part : Section}
    {number : Nat}
    {texts : List Text}
    (scanned : part.body = scanFrom number none texts)
    (fault : Fault) :
    ExecutorBlock.read part.name part.body = .error fault ↔
      ¬ part.HasExecutor ∧ fault = .missingExecutor part.name ∨
        part.LacksCommand ∧ fault = .missingCommand part.name := by
  rw [hasExecutor_iff, lacksCommand_iff scanned, ExecutorBlock.read]
  cases Line.afterFirst? ExecutorBlock.heading? part.body with
  | none => simp [eq_comm]
  | some found =>
    rcases found with ⟨heading, rest⟩
    cases heading with
    | manual elevated => simp
    | command executor elevated =>
      cases block : FencedBlock.first? rest with
      | none => simp [block, eq_comm]
      | some found => simp [block]

/-- The fault of a scanned section is the first of those it has. -/
theorem read_eq_error_iff
    {part : Section}
    {number : Nat}
    {texts : List Text}
    (scanned : part.body = scanFrom number none texts)
    (fault : Fault) :
    part.read = .error fault ↔ part.HasFault fault := by
  have executor := executor_eq_error_iff scanned fault
  constructor
  · intro unread
    rw [read] at unread
    cases found : unclosedFence? part.body with
    | some line =>
      rcases (unclosedFence?_eq_some_iff part line).mp found with
        ⟨before, line, after, split, first, opens, rfl⟩
      simp only [found, Except.error.injEq] at unread
      exact unread ▸ .unclosedFence split first opens
    | none =>
      have closed := (unclosedFence?_eq_none_iff part).mp found
      cases outcome : ExecutorBlock.read part.name part.body with
      | ok known => simp [found, outcome] at unread
      | error known =>
        simp only [found, outcome, Except.error.injEq] at unread
        subst unread
        rcases executor.mp outcome with ⟨absent, rfl⟩ | ⟨lacking, rfl⟩
        · exact .missingExecutor closed absent
        · exact .missingCommand closed lacking
  · intro known
    rw [read]
    cases known with
    | unclosedFence split first opens =>
      rw [(unclosedFence?_eq_some_iff part _).mpr ⟨_, _, _, split, first, opens, rfl⟩]
    | missingExecutor closed absent =>
      rw [(unclosedFence?_eq_none_iff part).mpr closed, executor.mpr (Or.inl ⟨absent, rfl⟩)]
    | missingCommand closed lacking =>
      rw [(unclosedFence?_eq_none_iff part).mpr closed, executor.mpr (Or.inr ⟨lacking, rfl⟩)]

/-- A section has a fault exactly when it is bad. -/
theorem exists_hasFault_iff (part : Section) :
    (∃ fault, part.HasFault fault) ↔ part.IsBad := by
  constructor
  · rintro ⟨fault, known⟩
    cases known with
    | @unclosedFence before after line split first opens =>
      refine Or.inl fun closed => ?_
      have isClosed := closed line (by simp [split])
      simp [opens] at isClosed
    | missingExecutor closed absent => exact Or.inr (Or.inl absent)
    | missingCommand closed lacking => exact Or.inr (Or.inr lacking)
  · intro bad
    cases found : unclosedFence? part.body with
    | some number =>
      rcases (unclosedFence?_eq_some_iff part number).mp found with
        ⟨before, line, after, split, first, opens, -⟩
      exact ⟨_, .unclosedFence split first opens⟩
    | none =>
      have closed := (unclosedFence?_eq_none_iff part).mp found
      by_cases executor : part.HasExecutor
      · have lacking := (bad.resolve_left (not_not.mpr closed)).resolve_left (not_not.mpr executor)
        exact ⟨_, .missingCommand closed lacking⟩
      · exact ⟨_, .missingExecutor closed executor⟩

theorem exists_read_eq_ok_iff
    {part : Section}
    {number : Nat}
    {texts : List Text}
    (scanned : part.body = scanFrom number none texts) :
    (∃ test, part.read = .ok test) ↔ ¬ part.IsBad := by
  rw [← exists_hasFault_iff]
  simp only [← read_eq_error_iff scanned]
  cases part.read <;> simp

end Section

/-! ## Sections in order -/

/-- Tests are read exactly when every section can be. -/
theorem exists_readTests_eq_ok_iff (parts : List Section) :
    (∃ tests, readTests parts = .ok tests) ↔ ∀ part ∈ parts, ∃ test, part.read = .ok test := by
  induction parts with
  | nil => simp [readTests]
  | cons first rest hypothesis =>
    rw [List.forall_mem_cons, ← hypothesis, readTests]
    cases first.read with
    | error fault => simp
    | ok test =>
      cases readTests rest with
      | error fault => simp [Except.map]
      | ok tests => simp [Except.map]

/-- The fault of sections is that of the first one that cannot be read. -/
theorem readTests_eq_error_iff
    (parts : List Section)
    (fault : Fault) :
    readTests parts = .error fault ↔
      ∃ before part after, parts = before ++ part :: after ∧
        (∀ other ∈ before, ∃ test, other.read = .ok test) ∧ part.read = .error fault := by
  constructor
  · intro failure
    rcases readTests_eq_error failure with ⟨index, part, found, unread, before⟩
    rcases List.getElem?_eq_some_iff.mp found with ⟨inside, same⟩
    refine ⟨parts.take index, part, parts.drop (index + 1), ?_, ?_, unread⟩
    · rw [← same, List.getElem_cons_drop, List.take_append_drop]
    · intro other member
      rcases List.getElem?_of_mem member with ⟨earlier, position⟩
      rw [List.getElem?_take] at position
      split at position
      · rename_i less
        exact before earlier less other position
      · cases position
  · rintro ⟨before, part, after, rfl, readable, unread⟩
    induction before with
    | nil => simp [readTests, unread]
    | cons first rest hypothesis =>
      rcases readable first (List.mem_cons_self ..) with ⟨test, known⟩
      have later := hypothesis fun other member => readable other (List.mem_cons_of_mem _ member)
      rw [List.cons_append, readTests, known]
      simp [later, Except.map]

/-- Every section of a page is a scan by itself. -/
theorem exists_body_eq_scanFrom
    {page : Text}
    {part : Section}
    (member : part ∈ sections (scan page)) :
    ∃ number texts, part.body = scanFrom number none texts := by
  rcases exists_passages page with ⟨passages, -, -, parts⟩
  rw [parts] at member
  rcases List.getElem?_of_mem member with ⟨index, found⟩
  rw [getElem?_sectionsFrom, Option.map_eq_some_iff] at found
  rcases found with ⟨passage, -, rfl⟩
  exact ⟨_, _, rfl⟩

/-! ## The whole page -/

/-- A line of the page names the technique. -/
def IsTitled (page : Text) : Prop :=
  ∃ line ∈ scan page, ∃ identifier name, line.kind = .title identifier name

theorem isSome_title?_iff (kind : LineKind) :
    kind.title?.isSome ↔ ∃ identifier name, kind = .title identifier name := by
  cases kind <;> simp [LineKind.title?]

/-- The fault of a page: a missing title, or the fault of the first bad section. -/
inductive IsFault (page : Text) : Fault → Prop where
  | missingTitle
    (untitled : ¬ IsTitled page) :
    IsFault page .missingTitle
  | ofSection
    {before after : List Section}
    {part : Section}
    {fault : Fault}
    (titled : IsTitled page)
    (split : sections (scan page) = before ++ part :: after)
    (first : ∀ other ∈ before, ¬ other.IsBad)
    (own : part.HasFault fault) :
    IsFault page fault

theorem read_of_not_isTitled
    {page : Text}
    (untitled : ¬ IsTitled page) :
    read page = .error .missingTitle := by
  have absent : Line.first? LineKind.title? (scan page) = none := by
    rw [← Option.not_isSome_iff_eq_none, Line.isSome_first?_iff]
    simpa only [IsTitled, isSome_title?_iff] using untitled
  rw [read, readLines, absent]

theorem read_of_isTitled
    {page : Text}
    (titled : IsTitled page) :
    ∃ identifier name, read page = (readTests (sections (scan page))).map fun tests =>
      ⟨identifier, name, techniqueDescription? (preamble (scan page)), tests⟩ :=
  exists_read_eq (by simpa only [IsTitled, isSome_title?_iff] using titled)

/-- A section of a page is read exactly when it is not bad. -/
theorem exists_read_section_eq_ok_iff
    {page : Text}
    {part : Section}
    (member : part ∈ sections (scan page)) :
    (∃ test, part.read = .ok test) ↔ ¬ part.IsBad := by
  rcases exists_body_eq_scanFrom member with ⟨number, texts, scanned⟩
  exact Section.exists_read_eq_ok_iff scanned

/-- A section of a page is refused with the first of its faults. -/
theorem read_section_eq_error_iff
    {page : Text}
    {part : Section}
    (member : part ∈ sections (scan page))
    (fault : Fault) :
    part.read = .error fault ↔ part.HasFault fault := by
  rcases exists_body_eq_scanFrom member with ⟨number, texts, scanned⟩
  exact Section.read_eq_error_iff scanned fault

/-- The tests of a page are read exactly when none of its sections is bad. -/
theorem exists_readTests_sections_iff (page : Text) :
    (∃ tests, readTests (sections (scan page)) = .ok tests) ↔
      ∀ part ∈ sections (scan page), ¬ part.IsBad := by
  rw [exists_readTests_eq_ok_iff]
  exact forall₂_congr fun part member => exists_read_section_eq_ok_iff member

theorem readTests_sections_eq_error_iff
    (page : Text)
    (fault : Fault) :
    readTests (sections (scan page)) = .error fault ↔
      ∃ before part after, sections (scan page) = before ++ part :: after ∧
        (∀ other ∈ before, ¬ other.IsBad) ∧ part.HasFault fault := by
  rw [readTests_eq_error_iff]
  refine exists_congr fun before => exists_congr fun part => exists_congr fun after => ?_
  refine and_congr_right fun split => ?_
  have front : ∀ other ∈ before, other ∈ sections (scan page) := by
    intro other member
    rw [split]
    exact List.mem_append_left _ member
  have own : part ∈ sections (scan page) := by simp [split]
  refine and_congr ?_ (read_section_eq_error_iff own fault)
  exact forall₂_congr fun other member => exists_read_section_eq_ok_iff (front other member)

/-- A page is refused for its missing title, or with the fault of its first bad section. -/
theorem read_eq_error_iff
    (page : Text)
    (fault : Fault) :
    read page = .error fault ↔ IsFault page fault := by
  by_cases titled : IsTitled page
  · rcases read_of_isTitled titled with ⟨identifier, name, whole⟩
    have failure : read page = .error fault ↔
        readTests (sections (scan page)) = .error fault := by
      rw [whole]
      cases readTests (sections (scan page)) <;> simp [Except.map]
    rw [failure, readTests_sections_eq_error_iff]
    constructor
    · rintro ⟨before, part, after, split, first, own⟩
      exact .ofSection titled split first own
    · intro known
      cases known with
      | missingTitle untitled => exact absurd titled untitled
      | ofSection other split first own => exact ⟨_, _, _, split, first, own⟩
  · rw [read_of_not_isTitled titled]
    constructor
    · rintro ⟨⟩
      exact .missingTitle titled
    · intro known
      cases known with
      | missingTitle untitled => rfl
      | ofSection other split first own => exact absurd other titled

/--
A page is accepted exactly when it has a title and no bad section.  Its fault is
a missing title, or else the fault of its first bad section: the line of the first
block without an end, the missing executor, or the missing command, in this
order.  Lines are counted from one.
-/
theorem read_accepts_iff (page : Text) :
    (read page = .error .missingTitle ↔ ¬ IsTitled page) ∧
      ((∃ technique, read page = .ok technique) ↔
        IsTitled page ∧ ∀ part ∈ sections (scan page), ¬ part.IsBad) ∧
      (∀ fault, read page = .error fault ↔ IsFault page fault) ∧
      (scan page).map Line.number = List.range' 1 page.lines.length := by
  refine ⟨?_, ?_, read_eq_error_iff page, map_number_scanFrom 1 none page.lines⟩
  · rw [read_eq_error_iff]
    constructor
    · intro known
      cases known with
      | missingTitle untitled => exact untitled
      -- The faults of sections are others.
      | ofSection titled split first own => cases own
    · exact .missingTitle
  · by_cases titled : IsTitled page
    · rcases read_of_isTitled titled with ⟨identifier, name, whole⟩
      rw [whole, ← exists_readTests_sections_iff]
      cases readTests (sections (scan page)) <;> simp [Except.map, titled]
    · rw [read_of_not_isTitled titled]
      simp [titled]

/-- A page with two bad sections, the first of them with two faults. -/
def faultyPage : Text :=
  "# T1000 - Faults\n## Atomic Test #1 - Fine\n#### Run it with these steps!\n".toList ++
    "## Atomic Test #2 - Nothing\n```sh\n## Atomic Test #3 - No command\n".toList ++
    "#### Attack Commands: Run with `sh`!\n".toList

/-- The unclosed block of the second section is the fault of `faultyPage`. -/
theorem read_accepts_faultyPage :
    read faultyPage = .error (.unclosedFence 5) ∧ IsFault faultyPage (.unclosedFence 5) :=
  have unread : read faultyPage = .error (.unclosedFence 5) := by decide
  ⟨unread, ((read_accepts_iff faultyPage).2.2.1 _).mp unread⟩

end TechniquePages.Page
