import TechniquePages.Proofs.Page.Scanning

/-!
# Renumbering lines

A section is read from the texts and kinds of its lines.  Their numbers have one
use: they name the fence that a fault is about.  So when every line of a section
gets another number, the section makes the same test, and a fault changes its
number along with the lines.
-/

namespace TechniquePages.Page

/-- Give a line another number. -/
def Line.renumber (change : Nat → Nat) (line : Line) : Line :=
  { line with number := change line.number }

@[simp]
theorem Line.text_renumber (change : Nat → Nat) (line : Line) :
    (line.renumber change).text = line.text := rfl

@[simp]
theorem Line.kind_renumber (change : Nat → Nat) (line : Line) :
    (line.renumber change).kind = line.kind := rfl

/-- Change the number that a fault gives. -/
def Fault.renumber (change : Nat → Nat) : Fault → Fault
  | .unclosedFence line => .unclosedFence (change line)
  | fault => fault

variable (change : Nat → Nat)

@[simp]
theorem Line.join_renumber (lines : List Line) :
    Line.join (lines.map (Line.renumber change)) = Line.join lines := by
  simp [Line.join, Function.comp_def]

theorem Line.afterFirst?_renumber
    {α : Type}
    (answer? : LineKind → Option α)
    (lines : List Line) :
    Line.afterFirst? answer? (lines.map (Line.renumber change)) =
      (Line.afterFirst? answer? lines).map fun (answer, rest) =>
        (answer, rest.map (Line.renumber change)) := by
  induction lines with
  | nil => rfl
  | cons line rest hypothesis =>
    rw [List.map_cons, Line.afterFirst?, Line.afterFirst?, Line.kind_renumber]
    cases answer? line.kind with
    | none => exact hypothesis
    | some answer => rfl

theorem Line.first?_renumber
    {α : Type}
    (answer? : LineKind → Option α)
    (lines : List Line) :
    Line.first? answer? (lines.map (Line.renumber change)) = Line.first? answer? lines := by
  simp [Line.first?, Line.afterFirst?_renumber, Function.comp_def]

theorem Line.after?_renumber
    (kind : LineKind)
    (lines : List Line) :
    Line.after? kind (lines.map (Line.renumber change)) =
      (Line.after? kind lines).map (List.map (Line.renumber change)) := by
  simp [Line.after?, Line.afterFirst?_renumber, Function.comp_def]

/-! ## Blocks -/

theorem FencedBlock.untilClose?_renumber (lines : List Line) :
    FencedBlock.untilClose? (lines.map (Line.renumber change)) =
      (FencedBlock.untilClose? lines).map fun (inside, after) =>
        (inside.map (Line.renumber change), after.map (Line.renumber change)) := by
  induction lines with
  | nil => rfl
  | cons line rest hypothesis =>
    rw [List.map_cons, FencedBlock.untilClose?, FencedBlock.untilClose?, Line.kind_renumber,
      hypothesis]
    split
    · rfl
    · simp [Function.comp_def]

theorem FencedBlock.first?_renumber (lines : List Line) :
    FencedBlock.first? (lines.map (Line.renumber change)) =
      (FencedBlock.first? lines).map fun block =>
        ⟨block.content, block.rest.map (Line.renumber change)⟩ := by
  simp only [FencedBlock.first?, Line.afterFirst?_renumber, Option.bind_eq_bind]
  cases Line.afterFirst? FencedBlock.opens? lines with
  | none => rfl
  | some found =>
    rcases found with ⟨-, inside⟩
    simp only [Option.map_some, Option.bind_some, FencedBlock.untilClose?_renumber]
    cases FencedBlock.untilClose? inside with
    | none => rfl
    | some parts => simp

/-! ## The parts of a section -/

theorem ExecutorBlock.steps_renumber (lines : List Line) :
    ExecutorBlock.steps (lines.map (Line.renumber change)) = ExecutorBlock.steps lines := by
  have filler : ExecutorBlock.isFiller ∘ Line.renumber change = ExecutorBlock.isFiller := rfl
  simp only [ExecutorBlock.steps, ← List.map_reverse, List.dropWhile_map, filler,
    Line.join_renumber]

theorem ExecutorBlock.cleanup?_renumber (lines : List Line) :
    ExecutorBlock.cleanup? (lines.map (Line.renumber change)) = ExecutorBlock.cleanup? lines := by
  simp only [ExecutorBlock.cleanup?, Line.after?_renumber, Option.bind_eq_bind]
  cases Line.after? .cleanupHeading lines with
  | none => rfl
  | some after =>
    simp only [Option.map_some, Option.bind_some, FencedBlock.first?_renumber]
    cases FencedBlock.first? after <;> rfl

theorem ExecutorBlock.read_renumber
    (test : Text)
    (body : List Line) :
    ExecutorBlock.read test (body.map (Line.renumber change)) = ExecutorBlock.read test body := by
  have endsText : (fun line : Line => !line.kind.endsText) ∘ Line.renumber change =
      fun line => !line.kind.endsText := rfl
  simp only [ExecutorBlock.read, Line.afterFirst?_renumber]
  cases Line.afterFirst? ExecutorBlock.heading? body with
  | none => rfl
  | some found =>
    rcases found with ⟨heading, rest⟩
    cases heading with
    | manual elevated =>
      simp only [Option.map_some, List.takeWhile_map, endsText, ExecutorBlock.steps_renumber]
    | command executor elevated =>
      simp only [Option.map_some, FencedBlock.first?_renumber]
      cases FencedBlock.first? rest with
      | none => rfl
      | some block => simp [ExecutorBlock.cleanup?_renumber]

theorem DependencyBlock.get?_renumber (lines : List Line) :
    DependencyBlock.get? (lines.map (Line.renumber change)) = DependencyBlock.get? lines := by
  simp only [DependencyBlock.get?, Line.after?_renumber, Option.bind_eq_bind]
  cases Line.after? .getHeading lines with
  | none => rfl
  | some after =>
    simp only [Option.map_some, Option.bind_some, FencedBlock.first?_renumber]
    cases FencedBlock.first? after <;> rfl

theorem DependencyBlock.dependency?_renumber
    (description : Text)
    (lines : List Line) :
    DependencyBlock.dependency? description (lines.map (Line.renumber change)) =
      DependencyBlock.dependency? description lines := by
  simp only [DependencyBlock.dependency?, Line.after?_renumber]
  cases Line.after? .checkHeading lines with
  | none => rfl
  | some after =>
    simp only [Option.map_some, FencedBlock.first?_renumber]
    cases FencedBlock.first? after with
    | none => simp [DependencyBlock.get?_renumber]
    | some block => simp [DependencyBlock.get?_renumber]

theorem DependencyBlock.extent_renumber (lines : List Line) :
    DependencyBlock.extent (lines.map (Line.renumber change)) =
      (DependencyBlock.extent lines).map (Line.renumber change) := by
  have plain : (fun line : Line => line.kind.dependency?.isNone) ∘ Line.renumber change =
      fun line => line.kind.dependency?.isNone := rfl
  simp only [DependencyBlock.extent, List.takeWhile_map, plain]

theorem DependencyBlock.readFrom_renumber (lines : List Line) :
    DependencyBlock.readFrom (lines.map (Line.renumber change)) =
      DependencyBlock.readFrom lines := by
  induction lines with
  | nil => rfl
  | cons line rest hypothesis =>
    rw [List.map_cons, DependencyBlock.readFrom, DependencyBlock.readFrom, Line.kind_renumber]
    cases line.kind.dependency? with
    | none => exact hypothesis
    | some description =>
      simp only [DependencyBlock.extent_renumber, DependencyBlock.dependency?_renumber,
        hypothesis]

theorem DependencyBlock.read_renumber
    (executor : Text)
    (body : List Line) :
    DependencyBlock.read executor (body.map (Line.renumber change)) =
      DependencyBlock.read executor body := by
  simp only [DependencyBlock.read, Line.afterFirst?_renumber]
  cases Line.afterFirst? DependencyBlock.heading? body with
  | none => rfl
  | some found => simp [DependencyBlock.readFrom_renumber]

namespace Section

theorem description_renumber (body : List Line) :
    description (body.map (Line.renumber change)) = description body := by
  have ends : (fun line : Line => !(line.kind.platforms?.isSome || line.kind.endsText)) ∘
      Line.renumber change =
        fun line => !(line.kind.platforms?.isSome || line.kind.endsText) := rfl
  simp only [description, List.takeWhile_map, ends, Line.join_renumber]

theorem arguments_renumber (body : List Line) :
    arguments (body.map (Line.renumber change)) = arguments body := by
  simp [arguments, inputTexts?, Line.after?_renumber, Function.comp_def]

theorem unclosedFence?_renumber (body : List Line) :
    unclosedFence? (body.map (Line.renumber change)) = (unclosedFence? body).map change := by
  have unclosed : (fun line : Line => line.kind.isUnclosed) ∘ Line.renumber change =
      fun line => line.kind.isUnclosed := rfl
  simp only [unclosedFence?, List.find?_map, unclosed, Option.map_map]
  rfl

/-- A section with other numbers makes the same test, or the same fault with another number. -/
theorem read_renumber
    (name : Text)
    (body : List Line) :
    read ⟨name, body.map (Line.renumber change)⟩ =
      (read ⟨name, body⟩).mapError (Fault.renumber change) := by
  simp only [read, unclosedFence?_renumber]
  cases unclosedFence? body with
  | some line => rfl
  | none =>
    simp only [Option.map_none, ExecutorBlock.read_renumber]
    cases outcome : ExecutorBlock.read name body with
    | error fault =>
      -- The faults of an executor give no number.
      simp only [ExecutorBlock.read] at outcome
      split at outcome
      · cases outcome
        rfl
      · cases outcome
      · split at outcome
        · cases outcome
          rfl
        · cases outcome
    | ok executor =>
      simp only [DependencyBlock.read_renumber, description_renumber, arguments_renumber,
        platforms, guid?, Line.first?_renumber]
      rfl

end Section

/-- A section with other numbers. -/
def Section.renumber
    (change : Nat → Nat)
    (part : Section) : Section :=
  ⟨part.name, part.body.map (Line.renumber change)⟩

/-- Lines with other numbers are cut at the same headings. -/
theorem divide_renumber (lines : List Line) :
    divide (lines.map (Line.renumber change)) =
      ((divide lines).1.map (Line.renumber change),
        (divide lines).2.map (Section.renumber change)) := by
  induction lines with
  | nil => rfl
  | cons line rest hypothesis =>
    rw [List.map_cons, divide, divide, hypothesis, Line.kind_renumber]
    cases line.kind.testName? <;> rfl

/-! ## Scans -/

/-- Lines are numbered from a number on, one by one. -/
theorem map_number_scanFrom
    (number : Nat)
    (code : Option Nat)
    (texts : List Text) :
    (scanFrom number code texts).map Line.number = List.range' number texts.length := by
  induction texts generalizing number code with
  | nil => rfl
  | cons text rest hypothesis =>
    rw [List.length_cons, List.range'_succ]
    cases code with
    | none => simp [scanFrom, hypothesis]
    | some count => cases count <;> simp [scanFrom, hypothesis]

/-- A scan that starts elsewhere has the same lines with other numbers. -/
theorem scanFrom_eq_map_renumber
    {number : Nat}
    (other : Nat)
    {texts : List Text}
    (moved : ∀ index < texts.length, change (number + index) = other + index)
    (code : Option Nat) :
    scanFrom other code texts = (scanFrom number code texts).map (Line.renumber change) := by
  induction texts generalizing number other code with
  | nil => rfl
  | cons text rest hypothesis =>
    have first : change number = other := moved 0 (by simp)
    have later : ∀ index < rest.length, change (number + 1 + index) = other + 1 + index := by
      intro index inside
      have known := moved (index + 1) (by simpa using inside)
      rw [Nat.add_assoc, Nat.add_assoc, Nat.add_comm 1 index, known]
    cases code with
    | none => simp [scanFrom, hypothesis _ later, Line.renumber, first]
    | some count => cases count <;> simp [scanFrom, hypothesis _ later, Line.renumber, first]

/-- A scan that starts at a later number has later numbers throughout. -/
theorem scanFrom_add
    (number offset : Nat)
    (code : Option Nat)
    (texts : List Text) :
    scanFrom (number + offset) code texts =
      (scanFrom number code texts).map (Line.renumber (· + offset)) :=
  scanFrom_eq_map_renumber (· + offset) (number + offset)
    (fun index _ => Nat.add_right_comm number index offset) code

end TechniquePages.Page
