import Mathlib.Data.Option.Basic
import TechniquePages.Proofs.Page.InertCode

/-!
# Lines with prose among them

Prose that is strewn among the lines of a section, but not into a fenced block,
is passed over by every reader that looks for a line of another kind.  Such a
reader finds the same line in both runs, and what stands below it differs by
strewn prose again, so a search may be followed by another one.  In this way the
command, the cleanup command and the dependencies of a section stay what they are.

Free text is read with all its prose, and a table from the texts of its lines, so
these two are not among the readers here.
-/

namespace TechniquePages.Page

variable {change : Nat → Nat}

/--
Lines, and the same lines with prose among them, though not inside of blocks.  The
lines above the last stray one are kept as they are, those below it get other numbers.
-/
inductive Strewn (change : Nat → Nat) : List Line → List Line → Prop where
  | moved (lines : List Line) :
    Strewn change lines (lines.map (Line.renumber change))
  | line
    {line : Line}
    {lines others : List Line}
    (unopened : ¬ line.kind.IsBlockStart)
    (following : Strewn change lines others) :
    Strewn change (line :: lines) (line :: others)
  | block
    {block lines others : List Line}
    (own : IsFencedBlock block)
    (following : Strewn change lines others) :
    Strewn change (block ++ lines) (block ++ others)
  | stray
    {stray : Line}
    {lines others : List Line}
    (prose : stray.kind = .prose)
    (following : Strewn change lines others) :
    Strewn change lines (stray :: others)

/-- Lines that are scanned by themselves may stand above both runs. -/
theorem Scanned.strewn_append
    {number : Nat}
    {texts : List Text}
    {front lines others : List Line}
    (scanned : Scanned number texts front)
    (strewn : Strewn change lines others) :
    Strewn change (front ++ lines) (front ++ others) := by
  induction scanned with
  | nil number => exact strewn
  | @line number text rest front unfenced following hypothesis =>
    exact .line (not_isBlockStart_classify text) hypothesis
  | unclosed fenced endless following hypothesis =>
    refine .line ?_ hypothesis
    rintro ⟨language, opens⟩
    cases opens
  | @block number text language close code rest front fenced plain ends following hypothesis =>
    have own := isFencedBlock_codeLines fenced number (number + 1 + code.length) code close
    simpa using Strewn.block own hypothesis

namespace Strewn

variable {lines others : List Line}

/-! ## Finding the same line -/

/-- A reader that ignores fences and prose finds the same line in both runs. -/
theorem afterFirst?
    {α : Type}
    {answer? : LineKind → Option α}
    (strewn : Strewn change lines others)
    (ignores : IgnoresFences answer?)
    (silent : answer? .prose = none) :
    Option.Rel (fun own other => other.1 = own.1 ∧ Strewn change own.2 other.2)
      (Line.afterFirst? answer? lines) (Line.afterFirst? answer? others) := by
  induction strewn with
  | moved lines =>
    rw [Line.afterFirst?_renumber]
    cases Line.afterFirst? answer? lines with
    | none => exact .none
    | some found => exact .some ⟨rfl, .moved found.2⟩
  | @line line lines others unopened following hypothesis =>
    rw [Line.afterFirst?, Line.afterFirst?]
    cases answer? line.kind with
    | none => exact hypothesis
    | some answer => exact .some ⟨rfl, following⟩
  | block own following hypothesis =>
    rw [own.afterFirst? ignores, own.afterFirst? ignores]
    exact hypothesis
  | @stray stray lines others prose following hypothesis =>
    have passed : Line.afterFirst? answer? (stray :: others) = Line.afterFirst? answer? others :=
      @Line.afterFirst?_append _ answer? [stray] (by simp [prose, silent]) others
    rw [passed]
    exact hypothesis

/-- Both runs have a line of a kind, with strewn lines below it, or neither has. -/
theorem after?
    (strewn : Strewn change lines others)
    (kind : LineKind)
    (unfenced : kind.isFenced = false)
    (solid : kind ≠ .prose) :
    Option.Rel (Strewn change) (Line.after? kind lines) (Line.after? kind others) := by
  have found := strewn.afterFirst? (ignoresFences_kind unfenced) (if_neg (Ne.symm solid))
  rw [Line.after?, Line.after?]
  generalize Line.afterFirst? _ lines = own at found ⊢
  generalize Line.afterFirst? _ others = other at found ⊢
  cases found with
  | none => exact .none
  | some same => exact .some same.2

/-- Both runs have the same first block, with strewn lines below it, or neither has one. -/
theorem firstBlock?
    (strewn : Strewn change lines others) :
    Option.Rel (fun own other => other.content = own.content ∧ Strewn change own.rest other.rest)
      (FencedBlock.first? lines) (FencedBlock.first? others) := by
  induction strewn with
  | moved lines =>
    rw [FencedBlock.first?_renumber]
    cases FencedBlock.first? lines with
    | none => exact .none
    | some block => exact .some ⟨rfl, .moved block.rest⟩
  | line unopened following hypothesis =>
    have silent := FencedBlock.opens?_eq_none unopened
    rw [FencedBlock.first?_cons silent, FencedBlock.first?_cons silent]
    exact hypothesis
  | @block block lines others own following hypothesis =>
    rcases own.first? with ⟨content, found⟩
    rw [found, found]
    exact .some ⟨rfl, following⟩
  | @stray stray lines others prose following hypothesis =>
    have silent : FencedBlock.opens? stray.kind = none := by
      rw [prose]
      rfl
    rw [FencedBlock.first?_cons silent]
    exact hypothesis

/-- Runs are strewn alike up to a line that both have. -/
theorem takeWhile
    (strewn : Strewn change lines others)
    (keep : LineKind → Bool)
    (keeps : ∀ kind : LineKind, kind.isFenced = true → keep kind = true)
    (keepsProse : keep .prose = true) :
    Strewn change (lines.takeWhile fun line => keep line.kind)
      (others.takeWhile fun line => keep line.kind) := by
  induction strewn with
  | moved lines =>
    rw [List.takeWhile_map]
    exact .moved _
  | @line line lines others unopened following hypothesis =>
    rw [List.takeWhile_cons, List.takeWhile_cons]
    cases keep line.kind with
    | true => exact .line unopened hypothesis
    | false => exact .moved []
  | @block block lines others own following hypothesis =>
    have kept : ∀ line ∈ block, keep line.kind = true := fun line member =>
      keeps _ (own.isFenced line member).1
    rw [List.takeWhile_append_of_pos kept, List.takeWhile_append_of_pos kept]
    exact .block own hypothesis
  | @stray stray lines others prose following hypothesis =>
    rw [List.takeWhile_cons_of_pos (by rw [prose, keepsProse])]
    exact .stray prose hypothesis

/-- Strewn prose leaves no fence open. -/
theorem unclosedFence?_eq_none
    (strewn : Strewn change lines others)
    (closed : Section.unclosedFence? lines = none) :
    Section.unclosedFence? others = none := by
  simp only [Section.unclosedFence?, Option.map_eq_none_iff, List.find?_eq_none] at closed ⊢
  induction strewn with
  | moved lines =>
    intro line member
    rcases List.mem_map.mp member with ⟨own, inside, rfl⟩
    exact closed own inside
  | line unopened following hypothesis =>
    rcases List.forall_mem_cons.mp closed with ⟨own, others⟩
    exact List.forall_mem_cons.mpr ⟨own, hypothesis others⟩
  | block own following hypothesis =>
    rcases List.forall_mem_append.mp closed with ⟨own, others⟩
    exact List.forall_mem_append.mpr ⟨own, hypothesis others⟩
  | @stray stray lines others prose following hypothesis =>
    exact List.forall_mem_cons.mpr ⟨by simp [prose, LineKind.isUnclosed], hypothesis closed⟩

/-! ## Reading the parts of a section -/

/-- The command below a heading is the same one. -/
theorem commandBelow
    (strewn : Strewn change lines others)
    (kind : LineKind)
    (unfenced : kind.isFenced = false)
    (solid : kind ≠ .prose) :
    ((Line.after? kind others).bind fun after =>
        (FencedBlock.first? after).bind fun block => ExecutorBlock.nonEmpty? block.content) =
      (Line.after? kind lines).bind fun after =>
        (FencedBlock.first? after).bind fun block => ExecutorBlock.nonEmpty? block.content := by
  have found := strewn.after? kind unfenced solid
  generalize Line.after? kind lines = own at found ⊢
  generalize Line.after? kind others = other at found ⊢
  cases found with
  | none => rfl
  | @some own other below =>
    have blocks := below.firstBlock?
    rw [Option.bind_some, Option.bind_some]
    generalize FencedBlock.first? own = block at blocks ⊢
    generalize FencedBlock.first? other = otherBlock at blocks ⊢
    cases blocks with
    | none => rfl
    | some same => rw [Option.bind_some, Option.bind_some, same.1]

theorem cleanup?
    (strewn : Strewn change lines others) :
    ExecutorBlock.cleanup? others = ExecutorBlock.cleanup? lines :=
  strewn.commandBelow .cleanupHeading rfl (by simp)

theorem get?
    (strewn : Strewn change lines others) :
    DependencyBlock.get? others = DependencyBlock.get? lines :=
  strewn.commandBelow .getHeading rfl (by simp)

/-- An executor that runs a command is read as before; manual steps would take up the prose. -/
theorem readExecutor
    (strewn : Strewn change lines others)
    {test : Text}
    {executor : Executor}
    (known : ExecutorBlock.read test lines = .ok executor)
    {name : Text}
    {cleanup : Option Text}
    (command : executor.kind = .command name cleanup) :
    ExecutorBlock.read test others = .ok executor := by
  have headings := strewn.afterFirst? ExecutorBlock.ignoresFences_heading? rfl
  rcases ExecutorBlock.read_eq_ok known with
    ⟨elevated, rest, -, rfl⟩ | ⟨printed, elevated, rest, block, found, first, rfl⟩
  · cases command
  · rw [found] at headings
    rw [ExecutorBlock.read]
    generalize Line.afterFirst? ExecutorBlock.heading? others = other at headings ⊢
    cases headings with
    | @some _ other same =>
      rcases other with ⟨heading, otherRest⟩
      rcases same with ⟨rfl, below⟩
      have blocks : Option.Rel _ (FencedBlock.first? rest) (FencedBlock.first? otherRest) :=
        below.firstBlock?
      rw [first] at blocks
      simp only
      generalize FencedBlock.first? otherRest = otherBlock at blocks ⊢
      cases blocks with
      | some same => simp only [same.1, same.2.cleanup?]

theorem dependency?
    (strewn : Strewn change lines others)
    (description : Text) :
    DependencyBlock.dependency? description others =
      DependencyBlock.dependency? description lines := by
  have checks := strewn.after? .checkHeading rfl (by simp)
  rw [DependencyBlock.dependency?, DependencyBlock.dependency?]
  generalize Line.after? .checkHeading lines = own at checks ⊢
  generalize Line.after? .checkHeading others = other at checks ⊢
  cases checks with
  | none => rfl
  | @some own other below =>
    have blocks := below.firstBlock?
    simp only
    generalize FencedBlock.first? own = block at blocks ⊢
    generalize FencedBlock.first? other = otherBlock at blocks ⊢
    cases blocks with
    | none => simp only [below.get?]
    | some same => simp only [same.1, same.2.get?]

theorem readFrom
    (strewn : Strewn change lines others) :
    DependencyBlock.readFrom others = DependencyBlock.readFrom lines := by
  induction strewn with
  | moved lines => exact DependencyBlock.readFrom_renumber change lines
  | @line line lines others unopened following hypothesis =>
    have extents : Strewn change (DependencyBlock.extent lines) (DependencyBlock.extent others) :=
      following.takeWhile (fun kind => kind.dependency?.isNone)
        (fun kind fenced => by simp [LineKind.ignoresFences_dependency? kind fenced]) rfl
    rw [DependencyBlock.readFrom, DependencyBlock.readFrom]
    simp only [extents.dependency?, hypothesis]
  | block own following hypothesis =>
    rw [own.readFrom_append, own.readFrom_append, hypothesis]
  | @stray stray lines others prose following hypothesis =>
    rw [DependencyBlock.readFrom.eq_def (stray :: others)]
    simp only [prose, LineKind.dependency?, hypothesis]

theorem readDependencies
    (strewn : Strewn change lines others)
    (executor : Text) :
    DependencyBlock.read executor others = DependencyBlock.read executor lines := by
  have found := strewn.afterFirst? DependencyBlock.ignoresFences_heading? rfl
  rw [DependencyBlock.read, DependencyBlock.read]
  generalize Line.afterFirst? DependencyBlock.heading? lines = own at found ⊢
  generalize Line.afterFirst? DependencyBlock.heading? others = other at found ⊢
  cases found with
  | none => rfl
  | @some own other same =>
    rcases own with ⟨printed, rest⟩
    rcases other with ⟨otherPrinted, otherRest⟩
    rcases same with ⟨rfl, below⟩
    simp only [below.readFrom]

end Strewn

end TechniquePages.Page
