import TechniquePages.Proofs.Page.Sections
import TechniquePages.Proofs.Page.WrittenLines

/-!
# Blocks of a written page

A reader finds every part of a test by itself, at the first line that begins
such a part.  A block is a run of written lines of which it is known which parts
begin in it; its fences are closed, so it is scanned alike wherever it stands.
A reader that asks for another part passes over the block.

This is all that the parts of a page need to know of each other.
-/

namespace TechniquePages.Page

/-- What a line of a page can begin. -/
inductive Part where
  | description
  | test
  | platforms
  | guid
  | inputs
  | executor
  | cleanup
  | dependencies
  deriving DecidableEq

/-- The part that a line begins. -/
def LineKind.part? : LineKind → Option Part
  | .descriptionHeading => some .description
  | .testHeading _ => some .test
  | .platforms _ => some .platforms
  | .guid _ => some .guid
  | .inputsHeading => some .inputs
  | .manualHeading _ => some .executor
  | .commandHeading _ _ => some .executor
  | .cleanupHeading => some .cleanup
  | .dependenciesHeading _ => some .dependencies
  | _ => none

/-- Only lines that begin a part have an answer to the question. -/
def AsksFor
    {α : Type}
    (answer? : LineKind → Option α)
    (part : Part) : Prop :=
  ∀ kind, kind.part? ≠ some part → answer? kind = none

/-! ## Questions -/

theorem asksFor_platforms : AsksFor LineKind.platforms? .platforms := by
  intro kind other
  cases kind <;> simp [LineKind.part?, LineKind.platforms?] at other ⊢

theorem asksFor_guid : AsksFor LineKind.guid? .guid := by
  intro kind other
  cases kind <;> simp [LineKind.part?, LineKind.guid?] at other ⊢

theorem asksFor_testName : AsksFor LineKind.testName? .test := by
  intro kind other
  cases kind <;> simp [LineKind.part?, LineKind.testName?] at other ⊢

theorem asksFor_executor : AsksFor ExecutorBlock.heading? .executor := by
  intro kind other
  cases kind <;> simp [LineKind.part?, ExecutorBlock.heading?] at other ⊢

theorem asksFor_dependencies : AsksFor DependencyBlock.heading? .dependencies := by
  intro kind other
  cases kind <;> simp [LineKind.part?, DependencyBlock.heading?] at other ⊢

/-- A kind asks for the part that it begins. -/
theorem asksFor_kind
    {asked : LineKind}
    {part : Part}
    (begins : asked.part? = some part) :
    AsksFor (fun other => if other = asked then some () else none) part := by
  intro kind other
  have different : kind ≠ asked := by
    rintro rfl
    exact other begins
  simp [different]

/-! ## Passing over lines -/

theorem Line.afterFirst?_append
    {α : Type}
    {answer? : LineKind → Option α}
    {front : List Line}
    (silent : ∀ line ∈ front, answer? line.kind = none)
    (back : List Line) :
    Line.afterFirst? answer? (front ++ back) = Line.afterFirst? answer? back := by
  induction front with
  | nil => rfl
  | cons line rest hypothesis =>
    rw [List.cons_append, Line.afterFirst?, silent line (List.mem_cons_self ..)]
    exact hypothesis fun other member => silent other (List.mem_cons_of_mem _ member)

theorem Line.afterFirst?_eq_none
    {α : Type}
    {answer? : LineKind → Option α}
    {lines : List Line}
    (silent : ∀ line ∈ lines, answer? line.kind = none) :
    Line.afterFirst? answer? lines = none := by
  have whole := Line.afterFirst?_append silent []
  rwa [List.append_nil] at whole

@[simp]
theorem Line.after?_cons
    (kind : LineKind)
    (number : Nat)
    (text : Text)
    (rest : List Line) :
    Line.after? kind (⟨number, text, kind⟩ :: rest) = some rest := by
  simp [Line.after?, Line.afterFirst?]

theorem Line.after?_eq_none
    {kind : LineKind}
    {lines : List Line}
    (absent : ∀ line ∈ lines, line.kind ≠ kind) :
    Line.after? kind lines = none := by
  rw [Line.after?, Line.afterFirst?_eq_none]
  · rfl
  · intro line member
    simp [absent line member]

/-! ## Blocks -/

/-- The lines of a fenced block are its fences and code. -/
theorem kind_of_mem_fenced
    {number : Nat}
    {text language close : Text}
    {code : List Text}
    (opens : Marker.fenceLanguage? text = some language)
    (plain : ∀ line ∈ code, IsCodeLine line)
    (ends : IsClosingFence close)
    {line : Line}
    (member : line ∈ scanFrom number none (text :: (code ++ [close]))) :
    line.kind = .fenceOpen language true ∨ line.kind = .code ∨ line.kind = .fenceClose := by
  rw [scanFrom_block number [] opens plain ends, List.mem_cons, List.mem_append,
    List.mem_cons] at member
  rcases member with rfl | inside | rfl | after
  · exact Or.inl rfl
  · exact Or.inr (Or.inl (kind_of_mem_codeLines inside))
  · exact Or.inr (Or.inr rfl)
  · simp at after

/-- Scanned by themselves, the texts have only lines of kinds with a property. -/
def HasKinds
    (property : LineKind → Prop)
    (texts : List Text) : Prop :=
  ∀ line ∈ scanFrom 1 none texts, property line.kind

namespace HasKinds

variable {property : LineKind → Prop} {front back texts : List Text}

theorem nil : HasKinds property [] := by
  simp [HasKinds]

theorem mono
    {weaker : LineKind → Prop}
    (implies : ∀ kind, property kind → weaker kind)
    (known : HasKinds property texts) :
    HasKinds weaker texts :=
  fun line member => implies line.kind (known line member)

/-- Lines without an unclosed fence keep their kinds before other lines. -/
theorem append
    (closed : ∀ kind, property kind → kind.isUnclosed = false)
    (first : HasKinds property front)
    (second : HasKinds property back) :
    HasKinds property (front ++ back) := by
  have later := forall_kind_scanFrom property second (1 + front.length)
  have fences : FencesClosed front := fun line member => closed line.kind (first line member)
  intro line member
  rw [scanFrom_append fences] at member
  rcases List.mem_append.mp member with inFront | inBack
  · exact first line inFront
  · exact later line inBack

/-- A line outside fenced blocks before others. -/
theorem cons
    (closed : ∀ kind, property kind → kind.isUnclosed = false)
    {text : Text}
    {kind : LineKind}
    (known : HasKind text kind)
    (own : property kind)
    (others : HasKinds property texts) :
    HasKinds property (text :: texts) := by
  have single : HasKinds property [text] := by
    have scanned : scanFrom 1 none [text] = [⟨1, text, kind⟩] := known.scanFrom_cons 1 []
    simpa [HasKinds, scanned] using own
  exact single.append closed others

/-- Texts that open no block have the kinds of lines outside blocks. -/
theorem of_unfenced
    (closed : ∀ kind, property kind → kind.isUnclosed = false)
    (unfenced : ∀ text ∈ texts, Marker.fenceLanguage? text = none)
    (known : ∀ text ∈ texts, property (classify text)) :
    HasKinds property texts := by
  induction texts with
  | nil => exact nil
  | cons text rest hypothesis =>
    rcases List.forall_mem_cons.mp unfenced with ⟨ownFence, otherFences⟩
    rcases List.forall_mem_cons.mp known with ⟨own, others⟩
    exact cons closed ⟨ownFence, rfl⟩ own (hypothesis otherFences others)

/-- What is known of the lines of each item is known of all of them. -/
theorem flatMap
    (closed : ∀ kind, property kind → kind.isUnclosed = false)
    {α : Type}
    {items : List α}
    {write : α → List Text}
    (each : ∀ item ∈ items, HasKinds property (write item)) :
    HasKinds property (items.flatMap write) := by
  induction items with
  | nil => exact nil
  | cons item rest hypothesis =>
    rcases List.forall_mem_cons.mp each with ⟨own, others⟩
    rw [List.flatMap_cons]
    exact own.append closed (hypothesis others)

/-- A fenced block has no kinds but those of fences and code. -/
theorem fenced
    {text language close : Text}
    {code : List Text}
    (opens : Marker.fenceLanguage? text = some language)
    (plain : ∀ line ∈ code, IsCodeLine line)
    (ends : IsClosingFence close)
    (own : property (.fenceOpen language true) ∧ property .code ∧ property .fenceClose) :
    HasKinds property (text :: (code ++ [close])) := by
  intro line member
  rcases kind_of_mem_fenced opens plain ends member with kind | kind | kind <;> rw [kind]
  · exact own.1
  · exact own.2.1
  · exact own.2.2

end HasKinds

/-- The kind leaves no fence open, and begins one of these parts or none. -/
def LineKind.MayStand
    (parts : List Part)
    (kind : LineKind) : Prop :=
  kind.isUnclosed = false ∧ ∀ part ∈ kind.part?, part ∈ parts

theorem LineKind.MayStand.mono
    {parts others : List Part}
    {kind : LineKind}
    (stands : kind.MayStand parts)
    (more : parts ⊆ others) :
    kind.MayStand others :=
  ⟨stands.1, fun part begins => more (stands.2 part begins)⟩

/-- A question for a part that may not stand in the lines has no answer there. -/
theorem HasKinds.silent
    {parts : List Part}
    {texts : List Text}
    (kinds : HasKinds (LineKind.MayStand parts) texts)
    {α : Type}
    {answer? : LineKind → Option α}
    {part : Part}
    (asks : AsksFor answer? part)
    (absent : part ∉ parts)
    (number : Nat) :
    ∀ line ∈ scanFrom number none texts, answer? line.kind = none := by
  have within := forall_kind_scanFrom (LineKind.MayStand parts) kinds number
  intro line member
  apply asks
  intro begins
  exact absent ((within line member).2 part begins)

/-- No line begins a part that may not stand there. -/
theorem HasKinds.kind_ne_of_mem
    {parts : List Part}
    {texts : List Text}
    (kinds : HasKinds (LineKind.MayStand parts) texts)
    {kind : LineKind}
    {part : Part}
    (begins : kind.part? = some part)
    (absent : part ∉ parts)
    (number : Nat) :
    ∀ line ∈ scanFrom number none texts, line.kind ≠ kind := by
  intro line member same
  have unasked := kinds.silent (asksFor_kind begins) absent number line member
  simp [same] at unasked

/-- Written lines with closed fences in which only these parts begin. -/
structure IsBlock (parts : List Part) (texts : List Text) : Prop where
  closed : FencesClosed texts
  within : ∀ line ∈ scanFrom 1 none texts, ∀ part ∈ line.kind.part?, part ∈ parts
  unreturned : ∀ text ∈ texts, text.getLast? ≠ some '\r'

namespace IsBlock

variable {parts others : List Part} {front back texts : List Text}

theorem hasKinds (block : IsBlock parts texts) :
    HasKinds (LineKind.MayStand parts) texts :=
  fun line member => ⟨block.closed line member, block.within line member⟩

theorem of_hasKinds
    (kinds : HasKinds (LineKind.MayStand parts) texts)
    (unreturned : ∀ text ∈ texts, text.getLast? ≠ some '\r') :
    IsBlock parts texts :=
  ⟨fun line member => (kinds line member).1, fun line member => (kinds line member).2, unreturned⟩

theorem nil : IsBlock parts [] :=
  of_hasKinds HasKinds.nil (by simp)

theorem mono
    (block : IsBlock parts texts)
    (more : parts ⊆ others) :
    IsBlock others texts :=
  ⟨block.closed, fun line member part begins => more (block.within line member part begins),
    block.unreturned⟩

theorem append
    (first : IsBlock parts front)
    (second : IsBlock parts back) :
    IsBlock parts (front ++ back) :=
  of_hasKinds (first.hasKinds.append (fun _ => And.left) second.hasKinds)
    (List.forall_mem_append.mpr ⟨first.unreturned, second.unreturned⟩)

/-- A line outside fenced blocks before a block. -/
theorem cons
    {text : Text}
    {kind : LineKind}
    (known : HasKind text kind)
    (within : ∀ part ∈ kind.part?, part ∈ parts)
    (closed : kind.isUnclosed = false)
    (unreturned : text.getLast? ≠ some '\r')
    (block : IsBlock parts texts) :
    IsBlock parts (text :: texts) :=
  of_hasKinds (HasKinds.cons (fun _ => And.left) known ⟨closed, within⟩ block.hasKinds)
    (List.forall_mem_cons.mpr ⟨unreturned, block.unreturned⟩)

/-- A line of prose before a block. -/
theorem cons_prose
    {text : Text}
    (known : HasKind text .prose)
    (unreturned : text.getLast? ≠ some '\r')
    (block : IsBlock parts texts) :
    IsBlock parts (text :: texts) :=
  block.cons known (by simp [LineKind.part?]) rfl unreturned

/-- A fenced block begins no part. -/
theorem fenced
    {text language close : Text}
    {code : List Text}
    (opens : Marker.fenceLanguage? text = some language)
    (plain : ∀ line ∈ code, IsCodeLine line)
    (ends : IsClosingFence close)
    (unreturned : ∀ line ∈ text :: (code ++ [close]), line.getLast? ≠ some '\r') :
    IsBlock parts (text :: (code ++ [close])) := by
  refine of_hasKinds (HasKinds.fenced opens plain ends ?_) unreturned
  simp [LineKind.MayStand, LineKind.isUnclosed, LineKind.part?]

/-- A question for a part that does not begin in a block has no answer there. -/
theorem silent
    {α : Type}
    {answer? : LineKind → Option α}
    {part : Part}
    (block : IsBlock parts texts)
    (asks : AsksFor answer? part)
    (absent : part ∉ parts)
    (number : Nat) :
    ∀ line ∈ scanFrom number none texts, answer? line.kind = none :=
  block.hasKinds.silent asks absent number

/-- A block has no line of a kind that begins another part. -/
theorem kind_ne_of_mem
    {kind : LineKind}
    {part : Part}
    (block : IsBlock parts texts)
    (begins : kind.part? = some part)
    (absent : part ∉ parts)
    (number : Nat) :
    ∀ line ∈ scanFrom number none texts, line.kind ≠ kind :=
  block.hasKinds.kind_ne_of_mem begins absent number

/-- A reader passes over a block in which its part does not begin. -/
theorem afterFirst?_append
    {α : Type}
    {answer? : LineKind → Option α}
    {part : Part}
    (block : IsBlock parts texts)
    (asks : AsksFor answer? part)
    (absent : part ∉ parts)
    (number : Nat)
    (rest : List Line) :
    Line.afterFirst? answer? (scanFrom number none texts ++ rest) =
      Line.afterFirst? answer? rest :=
  Line.afterFirst?_append (block.silent asks absent number) rest

/-- No line of a block in which no test begins opens a test, fenced or not. -/
theorem free
    (block : IsBlock parts texts)
    (absent : Part.test ∉ parts) :
    ∀ text ∈ texts, isTestHeading text = false := by
  exact isTestHeading_of_mem (block.silent asksFor_testName absent 1)

end IsBlock

end TechniquePages.Page
