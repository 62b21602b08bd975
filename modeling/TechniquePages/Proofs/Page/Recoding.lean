import TechniquePages.Proofs.Page.Acceptance
import TechniquePages.Proofs.Page.WrittenDependencies

/-!
# Sections that differ in their code

Two runs of lines are alike when they differ only in the code of their fenced
blocks and in their numbers.  Every reader looks for its part among the other
lines, so it finds the same part in both runs, with runs that are alike again
below it.  What it takes from a block's code may differ, and nothing else.

The table of inputs is the one part that is read from the texts of lines whatever
their kinds.  It ends at the line that opens a block, since that line is no row.
-/

namespace TechniquePages

/-! ## Outlines -/

/-- An executor without its procedure and its cleanup command. -/
def Executor.outline (executor : Executor) : Executor :=
  match executor.kind with
  | .manual => { executor with procedure := [] }
  | .command name _ => { executor with kind := .command name none, procedure := [] }

/-- A dependency without its commands. -/
def Dependency.outline (dependency : Dependency) : Dependency :=
  { dependency with check := [], get := none }

/-- A test without its description, its procedure and its commands. -/
def AtomicTest.outline (test : AtomicTest) : AtomicTest :=
  { test with
    description := []
    executor := test.executor.outline
    dependencies := test.dependencies.map Dependency.outline }

/-- A technique without what its tests take from fenced blocks and free text. -/
def Technique.outline (technique : Technique) : Technique :=
  technique.mapTests AtomicTest.outline

@[simp]
theorem Executor.name_outline (executor : Executor) : executor.outline.name = executor.name := by
  rcases executor with ⟨kind, elevated, procedure, key⟩
  cases kind <;> rfl

namespace Page

variable {change : Nat → Nat}

/-! ## Blocks -/

/-- The lines of one fenced block, from the opening to the closing fence. -/
inductive IsFencedBlock : List Line → Prop where
  | intro
    {opening closing : Line}
    {code : List Line}
    (fenced : (Marker.fenceLanguage? opening.text).isSome)
    (opens : opening.kind.IsBlockStart)
    (coded : ∀ line ∈ code, line.kind = .code)
    (closes : closing.kind = .fenceClose) :
    IsFencedBlock (opening :: (code ++ [closing]))

theorem IsFencedBlock.isFenced
    {lines : List Line}
    (block : IsFencedBlock lines) :
    ∀ line ∈ lines, line.kind.isFenced = true ∧ line.kind.isUnclosed = false := by
  cases block with
  | intro fenced opens coded closes =>
    intro line member
    rw [List.mem_cons, List.mem_append, List.mem_singleton] at member
    rcases member with rfl | inside | rfl
    · rcases opens with ⟨language, kind⟩
      rw [kind]
      exact ⟨rfl, rfl⟩
    · rw [coded line inside]
      exact ⟨rfl, rfl⟩
    · rw [closes]
      exact ⟨rfl, rfl⟩

/-- A scan makes a fenced block of an opening fence, code and a closing fence. -/
theorem isFencedBlock_codeLines
    {text language : Text}
    (fenced : Marker.fenceLanguage? text = some language)
    (number last : Nat)
    (code : List Text)
    (close : Text) :
    IsFencedBlock
      (⟨number, text, .fenceOpen language true⟩ ::
        (codeLines (number + 1) code ++ [⟨last, close, .fenceClose⟩])) :=
  .intro (by simp [fenced]) ⟨language, rfl⟩ (fun _ => kind_of_mem_codeLines) rfl

/-- A block is the first one where it stands, whatever follows it. -/
theorem IsFencedBlock.first?
    {lines : List Line}
    (block : IsFencedBlock lines) :
    ∃ content, ∀ rest, FencedBlock.first? (lines ++ rest) = some ⟨content, rest⟩ := by
  cases block with
  | @intro opening closing code fenced opens coded closes =>
    have unclosed : ∀ line ∈ code, line.kind ≠ .fenceClose := by
      intro line member
      simp [coded line member]
    have opened := (FencedBlock.opens?_eq_some_iff _).mpr opens
    refine ⟨Html.decode (Line.join code).trim, fun rest => ?_⟩
    have inside := FencedBlock.untilClose?_append unclosed closes rest
    simp [FencedBlock.first?, Line.afterFirst?, opened, inside]

/-- A line that opens a block is no row of a table. -/
theorem InputsTable.isRow_of_fenceLanguage?
    {text language : Text}
    (fenced : Marker.fenceLanguage? text = some language) :
    isRow text = false := by
  simp only [Marker.fenceLanguage?, Option.bind_eq_bind, Option.bind_eq_some_iff] at fenced
  rcases fenced with ⟨rest, marked, -⟩
  rw [Text.after?_eq_some_iff] at marked
  have start : text.trim <+: '\x60' :: ("``".toList ++ rest) := by
    rw [marked]
    exact List.rdropWhile_prefix Unicode.isBlank _
  unfold isRow
  split
  · rename_i first second more shape
    rw [shape] at start
    have mark : first = '\x60' := (List.cons_prefix_cons.mp start).1
    simp [mark]
  · rfl

theorem InputsTable.rows?_of_not_isRow
    {text : Text}
    (unrowed : isRow text = false)
    (rest : List Text) :
    rows? (text :: rest) = none := by
  cases rest with
  | nil => rfl
  | cons rule rest => simp [rows?, unrowed]

/-- Lines that differ in their numbers and in their fenced blocks only. -/
inductive Alike (change : Nat → Nat) : List Line → List Line → Prop where
  | nil : Alike change [] []
  | line
    {line : Line}
    {lines others : List Line}
    (outside : line.kind.isInside = false)
    (unopened : ¬ line.kind.IsBlockStart)
    (following : Alike change lines others) :
    Alike change (line :: lines) (line.renumber change :: others)
  | block
    {block recoded lines others : List Line}
    (own : IsFencedBlock block)
    (other : IsFencedBlock recoded)
    (following : Alike change lines others) :
    Alike change (block ++ lines) (recoded ++ others)

/-- Two outcomes of one outline are both faults, or both values with one outline. -/
theorem outcome_cases
    {α β : Type}
    {outline : α → β}
    {own other : Except Fault α}
    (same : other.map outline = (own.map outline).mapError (Fault.renumber change)) :
    (∃ fault, own = .error fault ∧ other = .error (fault.renumber change)) ∨
      ∃ value recoded, own = .ok value ∧ other = .ok recoded ∧
        outline recoded = outline value := by
  cases own with
  | error fault =>
    cases other with
    | error otherFault => exact Or.inl ⟨fault, rfl, congrArg Except.error (Except.error.inj same)⟩
    | ok recoded => cases same
  | ok value =>
    cases other with
    | error otherFault => cases same
    | ok recoded => exact Or.inr ⟨value, recoded, rfl, rfl, Except.ok.inj same⟩

/-! ## Finding the same line -/

/-- The question has no answer for fences and code. -/
def IgnoresFences
    {α : Type}
    (answer? : LineKind → Option α) : Prop :=
  ∀ kind : LineKind, kind.isFenced = true → answer? kind = none

theorem ignoresFences_of_none
    {α : Type}
    {answer? : LineKind → Option α}
    (opens : ∀ language closed, answer? (.fenceOpen language closed) = none)
    (closes : answer? .fenceClose = none)
    (code : answer? .code = none) :
    IgnoresFences answer? := by
  intro kind fenced
  cases kind with
  | fenceOpen language closed => exact opens language closed
  | fenceClose => exact closes
  | code => exact code
  | _ => cases fenced

theorem ignoresFences_kind
    {kind : LineKind}
    (unfenced : kind.isFenced = false) :
    IgnoresFences fun other => if other = kind then some () else none := by
  intro other fenced
  have different : other ≠ kind := by
    rintro rfl
    simp [unfenced] at fenced
  simp [different]

theorem ExecutorBlock.ignoresFences_heading? : IgnoresFences ExecutorBlock.heading? :=
  ignoresFences_of_none (fun _ _ => rfl) rfl rfl

theorem DependencyBlock.ignoresFences_heading? : IgnoresFences DependencyBlock.heading? :=
  ignoresFences_of_none (fun _ _ => rfl) rfl rfl

theorem LineKind.ignoresFences_dependency? : IgnoresFences LineKind.dependency? :=
  ignoresFences_of_none (fun _ _ => rfl) rfl rfl

/-- A reader that ignores fences passes over a block. -/
theorem IsFencedBlock.afterFirst?
    {α : Type}
    {answer? : LineKind → Option α}
    (ignores : IgnoresFences answer?)
    {lines : List Line}
    (block : IsFencedBlock lines)
    (rest : List Line) :
    Line.afterFirst? answer? (lines ++ rest) = Line.afterFirst? answer? rest :=
  Line.afterFirst?_append (fun line member => ignores _ (block.isFenced line member).1) rest

/-- No dependency is described in a block. -/
theorem IsFencedBlock.readFrom_append
    {lines : List Line}
    (block : IsFencedBlock lines)
    (rest : List Line) :
    DependencyBlock.readFrom (lines ++ rest) = DependencyBlock.readFrom rest :=
  DependencyBlock.readFrom_append
    (fun line member => LineKind.ignoresFences_dependency? _ (block.isFenced line member).1) rest

/-- The same answer was found in both runs, and the lines below it are alike. -/
inductive FoundAlike
    (change : Nat → Nat)
    {α : Type} : Option (α × List Line) → Option (α × List Line) → Prop where
  | nowhere : FoundAlike change none none
  | there
    (answer : α)
    {rest others : List Line}
    (alike : Alike change rest others) :
    FoundAlike change (some (answer, rest)) (some (answer, others))

namespace Alike

variable {lines others : List Line}

theorem afterFirst?
    {α : Type}
    {answer? : LineKind → Option α}
    (alike : Alike change lines others)
    (ignores : IgnoresFences answer?) :
    FoundAlike change (Line.afterFirst? answer? lines) (Line.afterFirst? answer? others) := by
  induction alike with
  | nil => exact .nowhere
  | @line line lines others outside unopened following hypothesis =>
    rw [Line.afterFirst?, Line.afterFirst?, Line.kind_renumber]
    cases answer? line.kind with
    | none => exact hypothesis
    | some answer => exact .there answer following
  | block own other following hypothesis =>
    rw [own.afterFirst? ignores, other.afterFirst? ignores]
    exact hypothesis

theorem first?
    {α : Type}
    {answer? : LineKind → Option α}
    (alike : Alike change lines others)
    (ignores : IgnoresFences answer?) :
    Line.first? answer? others = Line.first? answer? lines := by
  have found := alike.afterFirst? ignores
  rw [Line.first?, Line.first?]
  generalize Line.afterFirst? answer? lines = own at found ⊢
  generalize Line.afterFirst? answer? others = other at found ⊢
  cases found <;> rfl

/-- Both runs have a line of a kind, with lines below it that are alike, or neither has. -/
theorem after?
    (alike : Alike change lines others)
    (kind : LineKind)
    (unfenced : kind.isFenced = false) :
    (Line.after? kind lines = none ∧ Line.after? kind others = none) ∨
      ∃ rest recoded, Line.after? kind lines = some rest ∧
        Line.after? kind others = some recoded ∧ Alike change rest recoded := by
  have found := alike.afterFirst? (ignoresFences_kind unfenced)
  rw [Line.after?, Line.after?]
  generalize Line.afterFirst? _ lines = own at found ⊢
  generalize Line.afterFirst? _ others = other at found ⊢
  cases found with
  | nowhere => exact Or.inl ⟨rfl, rfl⟩
  | there answer below => exact Or.inr ⟨_, _, rfl, rfl, below⟩

/-- Both runs have a first block, with lines below it that are alike, or neither has. -/
theorem firstBlock?
    (alike : Alike change lines others) :
    (FencedBlock.first? lines = none ∧ FencedBlock.first? others = none) ∨
      ∃ block recoded, FencedBlock.first? lines = some block ∧
        FencedBlock.first? others = some recoded ∧ Alike change block.rest recoded.rest := by
  induction alike with
  | nil => exact Or.inl ⟨rfl, rfl⟩
  | @line line lines others outside unopened following hypothesis =>
    have silent := FencedBlock.opens?_eq_none unopened
    have alsoSilent : FencedBlock.opens? (line.renumber change).kind = none := silent
    rw [FencedBlock.first?_cons silent, FencedBlock.first?_cons alsoSilent]
    exact hypothesis
  | @block block recoded lines others own other following hypothesis =>
    rcases own.first? with ⟨content, found⟩
    rcases other.first? with ⟨otherContent, alsoFound⟩
    exact Or.inr ⟨_, _, found lines, alsoFound others, following⟩

/-- Runs are alike up to a line that both have. -/
theorem takeWhile
    (alike : Alike change lines others)
    (keep : LineKind → Bool)
    (keeps : ∀ kind : LineKind, kind.isFenced = true → keep kind = true) :
    Alike change (lines.takeWhile fun line => keep line.kind)
      (others.takeWhile fun line => keep line.kind) := by
  induction alike with
  | nil => exact .nil
  | @line line lines others outside unopened following hypothesis =>
    rw [List.takeWhile_cons, List.takeWhile_cons, Line.kind_renumber]
    cases keep line.kind with
    | true => exact .line outside unopened hypothesis
    | false => exact .nil
  | block own other following hypothesis =>
    rw [List.takeWhile_append_of_pos fun line member => keeps _ (own.isFenced line member).1,
      List.takeWhile_append_of_pos fun line member => keeps _ (other.isFenced line member).1]
    exact .block own other hypothesis

/-! ## Reading the parts of a section -/

/-- The first unclosed fence is the same line, with its own number in each run. -/
theorem unclosedFence?
    (alike : Alike change lines others) :
    Section.unclosedFence? others = (Section.unclosedFence? lines).map change := by
  have passed : ∀ {front : List Line}, IsFencedBlock front → ∀ back,
      Section.unclosedFence? (front ++ back) = Section.unclosedFence? back := by
    intro front block back
    have closed : front.find? (fun line => line.kind.isUnclosed) = none := by
      rw [List.find?_eq_none]
      intro line member
      simp [(block.isFenced line member).2]
    simp [Section.unclosedFence?, List.find?_append, closed]
  induction alike with
  | nil => rfl
  | @line line lines others outside unopened following hypothesis =>
    simp only [Section.unclosedFence?, List.find?_cons, Line.kind_renumber] at hypothesis ⊢
    cases line.kind.isUnclosed with
    | true => rfl
    | false => exact hypothesis
  | block own other following hypothesis => rw [passed own, passed other, hypothesis]

/-- The texts of a block begin with one that is no row. -/
theorem exists_texts_of_block
    {block : List Line}
    (own : IsFencedBlock block) :
    ∃ fence texts, InputsTable.isRow fence = false ∧ block.map Line.text = fence :: texts := by
  cases own with
  | @intro opening closing code fenced opens coded closes =>
    rcases Option.isSome_iff_exists.mp fenced with ⟨language, known⟩
    exact ⟨opening.text, _, InputsTable.isRow_of_fenceLanguage? known, rfl⟩

/-- Rows end at a block. -/
theorem takeWhile_isRow
    (alike : Alike change lines others) :
    (others.map Line.text).takeWhile InputsTable.isRow =
      (lines.map Line.text).takeWhile InputsTable.isRow := by
  induction alike with
  | nil => rfl
  | @line line lines others outside unopened following hypothesis =>
    simp only [List.map_cons, List.takeWhile_cons, Line.text_renumber, hypothesis]
  | block own other following hypothesis =>
    rcases exists_texts_of_block own with ⟨fence, texts, unrowed, split⟩
    rcases exists_texts_of_block other with ⟨otherFence, otherTexts, alsoUnrowed, otherSplit⟩
    simp [split, otherSplit, unrowed, alsoUnrowed]

theorem rows?
    (alike : Alike change lines others) :
    InputsTable.rows? (others.map Line.text) = InputsTable.rows? (lines.map Line.text) := by
  cases alike with
  | nil => rfl
  | @line titles lines others outside unopened following =>
    cases following with
    | nil => rfl
    | @line rule lines others outside unopened following =>
      simp only [List.map_cons, Line.text_renumber, InputsTable.rows?, following.takeWhile_isRow]
    | block own other following =>
      rcases exists_texts_of_block own with ⟨fence, texts, unrowed, split⟩
      rcases exists_texts_of_block other with ⟨otherFence, otherTexts, alsoUnrowed, otherSplit⟩
      simp [split, otherSplit, InputsTable.rows?, InputsTable.isRule, unrowed, alsoUnrowed]
  | block own other following =>
    rcases exists_texts_of_block own with ⟨fence, texts, unrowed, split⟩
    rcases exists_texts_of_block other with ⟨otherFence, otherTexts, alsoUnrowed, otherSplit⟩
    rw [List.map_append, List.map_append, split, otherSplit, List.cons_append, List.cons_append,
      InputsTable.rows?_of_not_isRow unrowed, InputsTable.rows?_of_not_isRow alsoUnrowed]

/-- The table of inputs has the same rows, since a fence is no row. -/
theorem arguments
    (alike : Alike change lines others) :
    Section.arguments others = Section.arguments lines := by
  rw [Section.arguments, Section.arguments, Section.inputTexts?, Section.inputTexts?]
  rcases alike.after? .inputsHeading rfl with
    ⟨none, alsoNone⟩ | ⟨rest, recoded, found, alsoFound, below⟩
  · rw [none, alsoNone]
  · simp only [found, alsoFound, Option.map_some, InputsTable.arguments, below.rows?]

theorem readExecutor
    (alike : Alike change lines others)
    (name : Text) :
    (ExecutorBlock.read name others).map Executor.outline =
      ((ExecutorBlock.read name lines).map Executor.outline).mapError (Fault.renumber change) := by
  have found := alike.afterFirst? ExecutorBlock.ignoresFences_heading?
  rw [ExecutorBlock.read, ExecutorBlock.read]
  generalize Line.afterFirst? ExecutorBlock.heading? lines = own at found ⊢
  generalize Line.afterFirst? ExecutorBlock.heading? others = other at found ⊢
  cases found with
  | nowhere => rfl
  | there heading below =>
    cases heading with
    | manual elevated => rfl
    | command executor elevated =>
      rcases below.firstBlock? with ⟨none, alsoNone⟩ | ⟨block, recoded, present, alsoPresent, -⟩
      · simp only [none, alsoNone]
        rfl
      · simp only [present, alsoPresent]
        rfl

theorem dependency?
    (alike : Alike change lines others)
    (description : Text) :
    (DependencyBlock.dependency? description others).map Dependency.outline =
      (DependencyBlock.dependency? description lines).map Dependency.outline := by
  have known : ∀ run after, Line.after? .checkHeading run = some after →
      (DependencyBlock.dependency? description run).map Dependency.outline =
        some ⟨Html.decode description, [], none⟩ := by
    intro run after found
    simp only [DependencyBlock.dependency?, found]
    cases FencedBlock.first? after <;> rfl
  rcases alike.after? .checkHeading rfl with
    ⟨none, alsoNone⟩ | ⟨rest, recoded, found, alsoFound, -⟩
  · simp only [DependencyBlock.dependency?, none, alsoNone]
  · rw [known _ _ found, known _ _ alsoFound]

theorem readFrom
    (alike : Alike change lines others) :
    (DependencyBlock.readFrom others).map Dependency.outline =
      (DependencyBlock.readFrom lines).map Dependency.outline := by
  induction alike with
  | nil => rfl
  | @line line lines others outside unopened following hypothesis =>
    rw [DependencyBlock.readFrom, DependencyBlock.readFrom, Line.kind_renumber]
    cases line.kind.dependency? with
    | none => exact hypothesis
    | some description =>
      have extents : Alike change (DependencyBlock.extent lines) (DependencyBlock.extent others) :=
        following.takeWhile (fun kind => kind.dependency?.isNone)
          fun kind fenced => by simp [LineKind.ignoresFences_dependency? kind fenced]
      have same := extents.dependency? description
      cases own : DependencyBlock.dependency? description (DependencyBlock.extent lines) with
      | none =>
        rw [own, Option.map_none, Option.map_eq_none_iff] at same
        simp only [own, same]
      | some dependency =>
        rw [own, Option.map_some, Option.map_eq_some_iff] at same
        rcases same with ⟨recoded, other, outline⟩
        simp only [own, other, List.map_cons, outline, hypothesis]
  | block own other following hypothesis =>
    rw [own.readFrom_append, other.readFrom_append, hypothesis]

theorem readDependencies
    (alike : Alike change lines others)
    (executor : Text) :
    (DependencyBlock.read executor others).1 = (DependencyBlock.read executor lines).1 ∧
      (DependencyBlock.read executor others).2.map Dependency.outline =
        (DependencyBlock.read executor lines).2.map Dependency.outline := by
  have found := alike.afterFirst? DependencyBlock.ignoresFences_heading?
  rw [DependencyBlock.read, DependencyBlock.read]
  generalize Line.afterFirst? DependencyBlock.heading? lines = own at found ⊢
  generalize Line.afterFirst? DependencyBlock.heading? others = other at found ⊢
  cases found with
  | nowhere => exact ⟨rfl, rfl⟩
  | there printed below => exact ⟨rfl, below.readFrom⟩

/-- Sections that are alike make tests with the same outline, or the same fault. -/
theorem readSection
    (alike : Alike change lines others)
    (name : Text) :
    (Section.read ⟨name, others⟩).map AtomicTest.outline =
      ((Section.read ⟨name, lines⟩).map AtomicTest.outline).mapError (Fault.renumber change) := by
  have executors := alike.readExecutor name
  have platforms : Line.first? LineKind.platforms? others = Line.first? LineKind.platforms? lines :=
    alike.first? (ignoresFences_of_none (fun _ _ => rfl) rfl rfl)
  have guid : Line.first? LineKind.guid? others = Line.first? LineKind.guid? lines :=
    alike.first? (ignoresFences_of_none (fun _ _ => rfl) rfl rfl)
  simp only [Section.read, alike.unclosedFence?]
  cases Section.unclosedFence? lines with
  | some line => rfl
  | none =>
    simp only [Option.map_none]
    rcases outcome_cases executors with
      ⟨fault, own, other⟩ | ⟨executor, recoded, own, other, outlines⟩
    · rw [own, other]
      rfl
    · have names : recoded.name = executor.name := by
        rw [← Executor.name_outline, outlines, Executor.name_outline]
      have dependencies := alike.readDependencies executor.name
      rw [own, other]
      refine congrArg Except.ok ?_
      simp only [AtomicTest.outline, names, outlines, dependencies, Section.platforms,
        Section.guid?, platforms, guid, alike.arguments]

end Alike

end Page

end TechniquePages
