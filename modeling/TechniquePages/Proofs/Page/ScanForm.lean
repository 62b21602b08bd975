import TechniquePages.Proofs.Page.Acceptance

/-!
# The form of a scan

A scan has one line for each line of the page, and its kinds are those of whole
fenced blocks and of single lines between them.  An opening fence that stands
outside of blocks looks for its end among the lines before the next test heading:
the first closing fence there ends the block, and without one the fence is left
unclosed.  No block holds a test heading, so each of them keeps its kind.

All of this is read off the relation `Scanned`, one rule for each part of a scan.
-/

namespace TechniquePages.Page

/-! ## Whole blocks -/

/-- Kinds of lines that are whole fenced blocks and single lines between them. -/
inductive AreBlocks : List LineKind → Prop where
  | nil : AreBlocks []
  | single
    {kind : LineKind}
    {kinds : List LineKind}
    (outside : kind.isInside = false)
    (unopened : ¬ kind.IsBlockStart)
    (following : AreBlocks kinds) :
    AreBlocks (kind :: kinds)
  | block
    (language : Text)
    (length : Nat)
    {kinds : List LineKind}
    (following : AreBlocks kinds) :
    AreBlocks (.fenceOpen language true ::
      (List.replicate length .code ++ .fenceClose :: kinds))

theorem map_kind_codeLines
    (number : Nat)
    (texts : List Text) :
    (codeLines number texts).map Line.kind = List.replicate texts.length .code := by
  refine List.eq_replicate_iff.mpr ⟨?_, ?_⟩
  · rw [List.length_map, ← List.length_map Line.text, map_text_codeLines]
  · intro kind member
    rcases List.mem_map.mp member with ⟨line, inside, rfl⟩
    exact kind_of_mem_codeLines inside

/-- The kinds of a scan are whole blocks and single lines. -/
theorem Scanned.areBlocks
    {number : Nat}
    {texts : List Text}
    {lines : List Line}
    (scanned : Scanned number texts lines) :
    AreBlocks (lines.map Line.kind) := by
  induction scanned with
  | nil number => exact .nil
  | @line number text rest lines unfenced following hypothesis =>
    exact .single (isInside_classify text) (not_isBlockStart_classify text) hypothesis
  | unclosed fenced endless following hypothesis =>
    refine .single rfl ?_ hypothesis
    rintro ⟨language, opens⟩
    cases opens
  | @block number text language close code rest lines fenced plain ends following hypothesis =>
    rw [List.map_cons, List.map_append, List.map_cons, map_kind_codeLines]
    exact .block language code.length hypothesis

/-! ## Where a block ends -/

/-- A closing fence stands among the lines, before the first one that opens a test. -/
def ClosesBeforeTest (following : List Text) : Prop :=
  ∃ before close after, following = before ++ close :: after ∧
    Marker.closesFence close = true ∧ ∀ text ∈ before, isTestHeading text = false

/-- Code up to the first closing fence, which ends the block. -/
def EndsAtFirstFence (following : List Line) : Prop :=
  ∃ code close after, following = code ++ close :: after ∧
    (∀ line ∈ code, line.kind = .code ∧ Marker.closesFence line.text = false) ∧
    close.kind = .fenceClose ∧ Marker.closesFence close.text = true

/-- A line that opens a test closes no fenced block. -/
theorem closesFence_of_isTestHeading
    {text : Text}
    (opens : isTestHeading text = true) :
    Marker.closesFence text = false := by
  rcases Option.isSome_iff_exists.mp opens with ⟨kind, found⟩
  rcases Option.isSome_iff_exists.mp (Marker.testHeading?_eq_some found).1 with ⟨rest, marked⟩
  rcases Marker.headingText?_eq_some marked with ⟨blank, more, -, rfl⟩
  rfl

theorem closesBeforeTest_cons_iff
    (text : Text)
    (rest : List Text) :
    ClosesBeforeTest (text :: rest) ↔
      Marker.closesFence text = true ∨ isTestHeading text = false ∧ ClosesBeforeTest rest := by
  constructor
  · rintro ⟨before, close, after, split, closes, free⟩
    cases before with
    | nil =>
      rw [List.nil_append, List.cons.injEq] at split
      exact Or.inl (split.1 ▸ closes)
    | cons first others =>
      rw [List.cons_append, List.cons.injEq] at split
      rcases List.forall_mem_cons.mp free with ⟨own, later⟩
      exact Or.inr ⟨split.1 ▸ own, others, close, after, split.2, closes, later⟩
  · rintro (closes | ⟨plain, before, close, after, rfl, closes, free⟩)
    · exact ⟨[], text, rest, rfl, closes, by simp⟩
    · exact ⟨text :: before, close, after, rfl, closes, List.forall_mem_cons.mpr ⟨plain, free⟩⟩

/-- The search for the end of a block finds one exactly where there is one. -/
theorem isSome_codeLength?_iff (following : List Text) :
    (codeLength? following).isSome ↔ ClosesBeforeTest following := by
  induction following with
  | nil => simp [codeLength?, ClosesBeforeTest]
  | cons text rest hypothesis =>
    rw [closesBeforeTest_cons_iff, ← hypothesis, codeLength?]
    cases opens : isTestHeading text with
    | true => simp [closesFence_of_isTestHeading opens]
    | false => cases closes : Marker.closesFence text <;> simp

/-- An opening fence begins a block if one ends below it. -/
theorem Scanned.exists_fenceOpen
    {number : Nat}
    {text language : Text}
    {rest : List Text}
    {opening : Line}
    {after : List Line}
    (scanned : Scanned number (text :: rest) (opening :: after))
    (fenced : Marker.fenceLanguage? text = some language) :
    ∃ closed, opening.kind = .fenceOpen language closed ∧
      (closed = true ↔ ClosesBeforeTest (after.map Line.text)) ∧
        (closed = true → EndsAtFirstFence after) := by
  rw [← isSome_codeLength?_iff]
  cases scanned with
  | line unfenced following =>
    rw [fenced] at unfenced
    cases unfenced
  | unclosed known endless following =>
    cases fenced.symm.trans known
    rw [following.map_text, endless]
    exact ⟨false, rfl, by simp, by simp⟩
  | @block _ _ _ close code _ below known plain ends following =>
    cases fenced.symm.trans known
    refine ⟨true, rfl, ?_, fun _ => ?_⟩
    · have found : codeLength? (code ++ close :: below.map Line.text) = some code.length :=
        (codeLength?_eq_some_iff _ _).mpr ⟨code, close, _, rfl, rfl, plain, ends⟩
      simp [found]
    · refine ⟨_, _, below, rfl, fun line member => ?_, rfl, ends.1⟩
      exact ⟨kind_of_mem_codeLines member, (plain _ (text_mem_of_mem_codeLines member)).1⟩

/-- Only a line that looks like an opening fence is one. -/
theorem Scanned.fenceLanguage?_eq_some
    {number : Nat}
    {text language : Text}
    {rest : List Text}
    {opening : Line}
    {after : List Line}
    {closed : Bool}
    (scanned : Scanned number (text :: rest) (opening :: after))
    (opens : opening.kind = .fenceOpen language closed) :
    Marker.fenceLanguage? text = some language := by
  cases scanned with
  | line unfenced following =>
    have classified : classify text = .fenceOpen language closed := opens
    have unfencedKind := isFenced_classify text
    rw [classified] at unfencedKind
    cases unfencedKind
  | unclosed known endless following =>
    cases opens
    exact known
  | block known plain ends following =>
    cases opens
    exact known

/--
A scan covers its page, and its fences are well formed.  It has the lines of the page
with their numbers, and their kinds are whole blocks and single lines.  The lines outside
of blocks that look like an opening fence are the opening fences; one is closed if and
only if a closing fence follows before the next test heading, and then the first such
fence ends its block.  Every line that opens a test is a test heading, wherever it stands.
-/
theorem scan_covers_page (page : Text) :
    (scan page).map Line.text = page.lines ∧
      (scan page).map Line.number = List.range' 1 page.lines.length ∧
      AreBlocks ((scan page).map Line.kind) ∧
      (∀ before line after language, scan page = before ++ line :: after →
        line.kind.isInside = false →
          (Marker.fenceLanguage? line.text = some language ↔
              ∃ closed, line.kind = .fenceOpen language closed) ∧
            ∀ closed, line.kind = .fenceOpen language closed →
              (closed = true ↔ ClosesBeforeTest (after.map Line.text)) ∧
                (closed = true → EndsAtFirstFence after)) ∧
      ∀ line ∈ scan page, isTestHeading line.text = true →
        ∃ name, line.kind = .testHeading name := by
  have scanned : Scanned 1 page.lines (scan page) := scanned_scanFrom 1 page.lines
  refine ⟨scanned.map_text, map_number_scanFrom 1 none page.lines, scanned.areBlocks, ?_, ?_⟩
  · intro before line after language split outside
    rw [split] at scanned
    rcases scanned.suffix outside with ⟨rest, here⟩
    refine ⟨⟨?_, ?_⟩, ?_⟩
    · intro fenced
      rcases here.exists_fenceOpen fenced with ⟨closed, opens, -, -⟩
      exact ⟨closed, opens⟩
    · rintro ⟨closed, opens⟩
      exact here.fenceLanguage?_eq_some opens
    · intro closed opens
      rcases here.exists_fenceOpen (here.fenceLanguage?_eq_some opens) with
        ⟨same, alsoOpens, ends, first⟩
      cases opens.symm.trans alsoOpens
      exact ⟨ends, first⟩
  · intro line member opens
    have named := isSome_testName?_of_mem_scanFrom member
    rw [opens] at named
    cases kind : line.kind with
    | testHeading name => exact ⟨name, rfl⟩
    | _ => simp [kind, LineKind.testName?] at named

end TechniquePages.Page
