import TechniquePages.Page.Reading

/-!
# The shape of a scan

A scanned page is a row of closed blocks, unclosed opening fences and other
lines.  `Scanned` says so as a relation, one rule for each of the three, and
the scanner computes exactly this relation; every later fact about scans is an
induction on it.

One such fact is proved here.  A scan may be cut wherever the fences that are
left open above the cut stay open: after lines without an unclosed fence, and
before every test heading, whatever fences stand on either side.
-/

namespace TechniquePages.Page

/-! ## Fenced code -/

/-- A line that may stand inside a fenced block. -/
def IsCodeLine (text : Text) : Prop :=
  Marker.closesFence text = false ∧ isTestHeading text = false

instance (text : Text) : Decidable (IsCodeLine text) :=
  inferInstanceAs (Decidable (_ ∧ _))

/-- A line that may end a fenced block. -/
def IsClosingFence (text : Text) : Prop :=
  Marker.closesFence text = true ∧ isTestHeading text = false

instance (text : Text) : Decidable (IsClosingFence text) :=
  inferInstanceAs (Decidable (_ ∧ _))

/-- Lines of code from a number on. -/
def codeLines (number : Nat) : List Text → List Line
  | [] => []
  | text :: rest => ⟨number, text, .code⟩ :: codeLines (number + 1) rest

@[simp]
theorem map_text_codeLines
    (number : Nat)
    (texts : List Text) :
    (codeLines number texts).map Line.text = texts := by
  induction texts generalizing number with
  | nil => rfl
  | cons text rest hypothesis => simp [codeLines, hypothesis]

theorem kind_of_mem_codeLines
    {number : Nat}
    {texts : List Text}
    {line : Line}
    (member : line ∈ codeLines number texts) :
    line.kind = .code := by
  induction texts generalizing number with
  | nil => simp [codeLines] at member
  | cons text rest hypothesis =>
    rcases List.mem_cons.mp member with rfl | later
    · rfl
    · exact hypothesis later

theorem text_mem_of_mem_codeLines
    {number : Nat}
    {texts : List Text}
    {line : Line}
    (member : line ∈ codeLines number texts) :
    line.text ∈ texts := by
  have inTexts : line.text ∈ (codeLines number texts).map Line.text := List.mem_map_of_mem member
  rwa [map_text_codeLines] at inTexts

/-- A closing fence below code is the first line, or stands below code in the lines after it. -/
theorem exists_closingFence_cons_iff
    (text : Text)
    (rest : List Text)
    (length : Nat) :
    (∃ code close after, text :: rest = code ++ close :: after ∧ code.length = length ∧
        (∀ line ∈ code, IsCodeLine line) ∧ IsClosingFence close) ↔
      (length = 0 ∧ IsClosingFence text) ∨
        ∃ shorter, shorter + 1 = length ∧ IsCodeLine text ∧
          ∃ code close after, rest = code ++ close :: after ∧ code.length = shorter ∧
            (∀ line ∈ code, IsCodeLine line) ∧ IsClosingFence close := by
  constructor
  · rintro ⟨code, close, after, split, size, plain, ends⟩
    rcases List.cons_eq_append_iff.mp split with ⟨rfl, same⟩ | ⟨more, rfl, below⟩
    · rw [(List.cons.inj same).1] at ends
      exact Or.inl ⟨size.symm, ends⟩
    · have here := List.forall_mem_cons.mp plain
      exact Or.inr ⟨more.length, size, here.1, more, close, after, below, rfl, here.2, ends⟩
  · rintro (⟨rfl, ends⟩ | ⟨shorter, rfl, own, code, close, after, rfl, rfl, plain, ends⟩)
    · exact ⟨[], text, rest, rfl, rfl, by simp, ends⟩
    · exact ⟨text :: code, close, after, rfl, rfl, List.forall_mem_cons.mpr ⟨own, plain⟩, ends⟩

/-- A block ends at the first closing fence that no test heading precedes. -/
theorem codeLength?_eq_some_iff
    (texts : List Text)
    (length : Nat) :
    codeLength? texts = some length ↔
      ∃ code close rest, texts = code ++ close :: rest ∧ code.length = length ∧
        (∀ text ∈ code, IsCodeLine text) ∧ IsClosingFence close := by
  induction texts generalizing length with
  | nil => simp [codeLength?]
  | cons text rest hypothesis =>
    rw [codeLength?, exists_closingFence_cons_iff]
    cases heading : isTestHeading text with
    | true => simp [IsCodeLine, IsClosingFence, heading]
    | false =>
      cases closes : Marker.closesFence text with
      | true => simpa [IsCodeLine, IsClosingFence, heading, closes] using eq_comm
      | false =>
        simp only [Bool.false_eq_true, if_false, Option.map_eq_some_iff, hypothesis]
        simp [IsCodeLine, IsClosingFence, heading, closes, and_comm]

/-- Lines among which no fenced block ends do not end one that was opened before them. -/
theorem codeLength?_append_of_endless
    {back : List Text}
    (endless : codeLength? back = none)
    (front : List Text) :
    codeLength? (front ++ back) = codeLength? front := by
  induction front with
  | nil => simp [codeLength?, endless]
  | cons text rest hypothesis => simp [codeLength?, hypothesis]

/-! ## One step of the scanner -/

theorem scanFrom_line
    (number : Nat)
    {text : Text}
    (rest : List Text)
    (unfenced : Marker.fenceLanguage? text = none) :
    scanFrom number none (text :: rest) =
      ⟨number, text, classify text⟩ :: scanFrom (number + 1) none rest := by
  simp [scanFrom, kindBefore, unfenced]

theorem scanFrom_unclosed
    (number : Nat)
    {text language : Text}
    {rest : List Text}
    (fenced : Marker.fenceLanguage? text = some language)
    (endless : codeLength? rest = none) :
    scanFrom number none (text :: rest) =
      ⟨number, text, .fenceOpen language false⟩ :: scanFrom (number + 1) none rest := by
  simp [scanFrom, kindBefore, fenced, endless]

/-- Inside a block the scanner gives out code up to the closing fence. -/
theorem scanFrom_code
    (number : Nat)
    (code : List Text)
    (close : Text)
    (rest : List Text) :
    scanFrom number (some code.length) (code ++ close :: rest) =
      codeLines number code ++
        ⟨number + code.length, close, .fenceClose⟩ ::
          scanFrom (number + code.length + 1) none rest := by
  induction code generalizing number with
  | nil => rfl
  | cons text others hypothesis =>
    have count : number + 1 + others.length = number + (others.length + 1) := by omega
    rw [List.length_cons, List.cons_append, scanFrom, hypothesis, codeLines, List.cons_append,
      count]

theorem scanFrom_block
    (number : Nat)
    {text language close : Text}
    {code : List Text}
    (rest : List Text)
    (fenced : Marker.fenceLanguage? text = some language)
    (plain : ∀ line ∈ code, IsCodeLine line)
    (ends : IsClosingFence close) :
    scanFrom number none (text :: (code ++ close :: rest)) =
      ⟨number, text, .fenceOpen language true⟩ ::
        (codeLines (number + 1) code ++
          ⟨number + 1 + code.length, close, .fenceClose⟩ ::
            scanFrom (number + 1 + code.length + 1) none rest) := by
  have found : codeLength? (code ++ close :: rest) = some code.length :=
    (codeLength?_eq_some_iff _ _).mpr ⟨code, close, rest, rfl, rfl, plain, ends⟩
  rw [scanFrom, ← scanFrom_code]
  simp [kindBefore, fenced, found]

/-! ## The scan as a relation -/

/-- The lines of a page from a number on, with the kinds that a scan gives them. -/
inductive Scanned : Nat → List Text → List Line → Prop where
  | nil (number : Nat) : Scanned number [] []
  | line
    {number : Nat}
    {text : Text}
    {rest : List Text}
    {lines : List Line}
    (unfenced : Marker.fenceLanguage? text = none)
    (following : Scanned (number + 1) rest lines) :
    Scanned number (text :: rest) (⟨number, text, classify text⟩ :: lines)
  | unclosed
    {number : Nat}
    {text language : Text}
    {rest : List Text}
    {lines : List Line}
    (fenced : Marker.fenceLanguage? text = some language)
    (endless : codeLength? rest = none)
    (following : Scanned (number + 1) rest lines) :
    Scanned number (text :: rest) (⟨number, text, .fenceOpen language false⟩ :: lines)
  | block
    {number : Nat}
    {text language close : Text}
    {code rest : List Text}
    {lines : List Line}
    (fenced : Marker.fenceLanguage? text = some language)
    (plain : ∀ line ∈ code, IsCodeLine line)
    (ends : IsClosingFence close)
    (following : Scanned (number + 1 + code.length + 1) rest lines) :
    Scanned number (text :: (code ++ close :: rest))
      (⟨number, text, .fenceOpen language true⟩ ::
        (codeLines (number + 1) code ++
          ⟨number + 1 + code.length, close, .fenceClose⟩ :: lines))

/-- The scanner's answer is a scan. -/
theorem scanned_scanFrom
    (number : Nat)
    (texts : List Text) :
    Scanned number texts (scanFrom number none texts) := by
  -- A block is longer than its first line, so the induction is on the number of lines.
  induction size : texts.length using Nat.strongRecOn generalizing number texts with
  | ind size hypothesis =>
    subst size
    cases texts with
    | nil => exact .nil number
    | cons text rest =>
      cases fenced : Marker.fenceLanguage? text with
      | none =>
        rw [scanFrom_line number rest fenced]
        exact .line fenced (hypothesis rest.length (by simp) (number + 1) rest rfl)
      | some language =>
        cases found : codeLength? rest with
        | none =>
          rw [scanFrom_unclosed number fenced found]
          exact .unclosed fenced found (hypothesis rest.length (by simp) (number + 1) rest rfl)
        | some length =>
          rcases (codeLength?_eq_some_iff rest length).mp found with
            ⟨code, close, after, rfl, -, plain, ends⟩
          rw [scanFrom_block number after fenced plain ends]
          refine .block fenced plain ends (hypothesis after.length ?_ _ after rfl)
          simp only [List.length_cons, List.length_append]
          omega

/-- Nothing else is a scan. -/
theorem Scanned.eq_scanFrom
    {number : Nat}
    {texts : List Text}
    {lines : List Line}
    (scanned : Scanned number texts lines) :
    lines = scanFrom number none texts := by
  induction scanned with
  | nil number => rfl
  | line unfenced following hypothesis => rw [scanFrom_line _ _ unfenced, hypothesis]
  | unclosed fenced endless following hypothesis =>
    rw [scanFrom_unclosed _ fenced endless, hypothesis]
  | block fenced plain ends following hypothesis =>
    rw [scanFrom_block _ _ fenced plain ends, hypothesis]

/-- The texts of scanned lines are those that were scanned. -/
theorem Scanned.map_text
    {number : Nat}
    {texts : List Text}
    {lines : List Line}
    (scanned : Scanned number texts lines) :
    lines.map Line.text = texts := by
  rw [scanned.eq_scanFrom, map_text_scanFrom]

/-! ## Cutting a scan -/

/-- Every fenced block that the lines open has its end among them. -/
def FencesClosed (texts : List Text) : Prop :=
  ∀ line ∈ scanFrom 1 none texts, line.kind.isUnclosed = false

/-- Kinds do not depend on the number of the first line. -/
theorem map_kind_scanFrom
    (number other : Nat)
    (code : Option Nat)
    (texts : List Text) :
    (scanFrom number code texts).map Line.kind = (scanFrom other code texts).map Line.kind := by
  induction texts generalizing number other code with
  | nil => rfl
  | cons text rest hypothesis =>
    cases code with
    | none => simp [scanFrom, hypothesis (number + 1) (other + 1)]
    | some count =>
      cases count <;> simp [scanFrom, hypothesis (number + 1) (other + 1)]

/-- What holds of every kind in a scan holds wherever the scan starts. -/
theorem forall_kind_scanFrom
    (property : LineKind → Prop)
    {number : Nat}
    {texts : List Text}
    (known : ∀ line ∈ scanFrom number none texts, property line.kind)
    (other : Nat) :
    ∀ line ∈ scanFrom other none texts, property line.kind := by
  intro line member
  have kind : line.kind ∈ (scanFrom other none texts).map Line.kind :=
    List.mem_map_of_mem member
  rw [map_kind_scanFrom other number] at kind
  rcases List.mem_map.mp kind with ⟨same, found, equal⟩
  exact equal ▸ known same found

/-- Further texts end no block at a fence that the scanned lines leave open. -/
def StayOpen (lines : List Line) (back : List Text) : Prop :=
  ∀ before opening after, lines = before ++ opening :: after →
    opening.kind.isUnclosed = true → codeLength? (after.map Line.text) = none →
      codeLength? (after.map Line.text ++ back) = none

theorem StayOpen.of_append
    {front lines : List Line}
    {back : List Text}
    (stay : StayOpen (front ++ lines) back) :
    StayOpen lines back := fun before opening after split =>
  stay (front ++ before) opening after (by rw [split, List.append_assoc])

theorem StayOpen.tail
    {line : Line}
    {lines : List Line}
    {back : List Text}
    (stay : StayOpen (line :: lines) back) :
    StayOpen lines back := by
  have whole : StayOpen ([line] ++ lines) back := stay
  exact whole.of_append

/-- A scan may be cut where every fence that is left open above the cut stays open. -/
theorem scanFrom_append_of_stayOpen
    {number : Nat}
    {front back : List Text}
    (stay : StayOpen (scanFrom number none front) back) :
    scanFrom number none (front ++ back) =
      scanFrom number none front ++ scanFrom (number + front.length) none back := by
  have scanned := scanned_scanFrom number front
  generalize scanFrom number none front = lines at scanned stay ⊢
  induction scanned with
  | nil number => rfl
  | @line number text rest lines unfenced following hypothesis =>
    have count : number + 1 + rest.length = number + (rest.length + 1) := by omega
    rw [List.cons_append, scanFrom_line _ _ unfenced, hypothesis stay.tail, List.length_cons,
      count, List.cons_append]
  | @unclosed number text language rest lines fenced endless following hypothesis =>
    have count : number + 1 + rest.length = number + (rest.length + 1) := by omega
    have unended : codeLength? (rest ++ back) = none := by
      have here := stay [] _ lines rfl rfl
      rw [following.map_text] at here
      exact here endless
    rw [List.cons_append, scanFrom_unclosed _ fenced unended, hypothesis stay.tail,
      List.length_cons, count, List.cons_append]
  | @block number text language close code rest lines fenced plain ends following hypothesis =>
    have count : number + 1 + code.length + 1 + rest.length =
        number + (text :: (code ++ close :: rest)).length := by
      simp only [List.length_cons, List.length_append]
      omega
    rw [List.cons_append, List.append_assoc, List.cons_append, scanFrom_block _ _ fenced plain ends,
      hypothesis stay.tail.of_append.tail, count]
    simp

/-- Lines whose blocks are closed are scanned by themselves. -/
theorem scanFrom_append
    {front : List Text}
    (closed : FencesClosed front)
    (number : Nat)
    (back : List Text) :
    scanFrom number none (front ++ back) =
      scanFrom number none front ++ scanFrom (number + front.length) none back := by
  refine scanFrom_append_of_stayOpen fun before opening after split unclosed => ?_
  have shut := forall_kind_scanFrom (·.isUnclosed = false) closed number opening (by simp [split])
  rw [shut] at unclosed
  cases unclosed

/-- A page may be cut before lines among which no open block ends. -/
theorem scanFrom_append_of_endless
    (number : Nat)
    (front : List Text)
    {back : List Text}
    (endless : codeLength? back = none) :
    scanFrom number none (front ++ back) =
      scanFrom number none front ++ scanFrom (number + front.length) none back :=
  scanFrom_append_of_stayOpen fun _ _ after _ _ unended =>
    (codeLength?_append_of_endless endless (after.map Line.text)).trans unended

/-- A page may be cut before every test heading, whatever fences are open there. -/
theorem scanFrom_append_heading
    (number : Nat)
    (front : List Text)
    {heading : Text}
    (opens : isTestHeading heading = true)
    (back : List Text) :
    scanFrom number none (front ++ heading :: back) =
      scanFrom number none front ++
        scanFrom (number + front.length) none (heading :: back) :=
  scanFrom_append_of_endless number front (by simp [codeLength?, opens])

end TechniquePages.Page
