import TechniquePages.Proofs.Page.Marking

/-!
# Fenced blocks in a scan

Only a scan makes fences and code: the forms of a line by itself are none of them.
So a line that is neither code nor a closing fence stands outside fenced blocks,
and the scan may be taken up again there as if nothing came before.

It follows that a block that is said to have an end has it further down, and that
the code of a block may be exchanged for other code: the lines before and after it
keep their kinds, whatever fences stand among them.
-/

namespace TechniquePages.Page

/-! ## Fenced kinds -/

/-- The kind is a fence or code. -/
def LineKind.isFenced : LineKind → Bool
  | .fenceOpen _ _ => true
  | .fenceClose => true
  | .code => true
  | _ => false

/-- A form makes no fence and no code. -/
theorem isFenced_of_mem_forms
    {form : Text → Option LineKind}
    (member : form ∈ Marker.forms)
    {text : Text}
    {kind : LineKind}
    (found : form text = some kind) :
    kind.isFenced = false := by
  have known := form?_of_mem_forms member found
  cases kind with
  | fenceOpen language closed => cases known
  | fenceClose => cases known
  | code => cases known
  | _ => rfl

theorem isFenced_classify (text : Text) : (classify text).isFenced = false := by
  rcases classify_cases text with ⟨form, member, found⟩ | ⟨level, heading⟩ | prose
  · exact isFenced_of_mem_forms member found
  · rw [heading]
    rfl
  · rw [prose]
    rfl

/-- No line outside fenced blocks leaves a fence open. -/
theorem isUnclosed_classify (text : Text) : (classify text).isUnclosed = false := by
  have unfenced := isFenced_classify text
  cases kind : classify text with
  | fenceOpen language closed =>
    rw [kind] at unfenced
    cases unfenced
  | _ => rfl

/-- The kind of a line inside a fenced block or at its end. -/
def LineKind.isInside : LineKind → Bool
  | .fenceClose => true
  | .code => true
  | _ => false

/-- A fence that is left open stands in no block. -/
theorem LineKind.isInside_of_isUnclosed
    {kind : LineKind}
    (unclosed : kind.isUnclosed = true) :
    kind.isInside = false := by
  cases kind with
  | fenceOpen language closed => rfl
  | _ => cases unclosed

/-- Outside fenced blocks no line is code, and none closes a block. -/
theorem isInside_classify (text : Text) : (classify text).isInside = false := by
  have unfenced := isFenced_classify text
  cases kind : classify text <;> simp [kind, LineKind.isFenced] at unfenced <;> rfl

theorem isInside_of_mem_codeLines
    {number : Nat}
    {texts : List Text}
    {line : Line}
    (member : line ∈ codeLines number texts) :
    line.kind.isInside = true := by
  rw [kind_of_mem_codeLines member]
  rfl

/-- A line that opens a fenced block would also close one. -/
theorem closesFence_of_fenceLanguage?
    {text language : Text}
    (fenced : Marker.fenceLanguage? text = some language) :
    Marker.closesFence text = true := by
  simp only [Marker.fenceLanguage?, Option.bind_eq_bind, Option.bind_eq_some_iff] at fenced
  rcases fenced with ⟨rest, marked, -⟩
  rw [Text.after?_eq_some_iff] at marked
  subst marked
  rfl

/-! ## Taking a scan up again -/

/-- A line outside a block's code stands after the whole block. -/
theorem exists_of_append_eq
    {code lines before after : List Line}
    {close line : Line}
    (inside : ∀ other ∈ code, other.kind.isInside = true)
    (closes : close.kind.isInside = true)
    (outside : line.kind.isInside = false)
    (equal : code ++ close :: lines = before ++ line :: after) :
    ∃ more, before = code ++ close :: more ∧ lines = more ++ line :: after := by
  rcases List.append_eq_append_iff.mp equal with ⟨middle, front, back⟩ | ⟨middle, front, back⟩
  · cases middle with
    | nil =>
      rw [List.nil_append, List.cons.injEq] at back
      simp [← back.1, closes] at outside
    | cons first more =>
      rw [List.cons_append, List.cons.injEq] at back
      exact ⟨more, by rw [front, back.1], back.2⟩
  · cases middle with
    | nil =>
      rw [List.nil_append, List.cons.injEq] at back
      simp [back.1, closes] at outside
    | cons first more =>
      rw [List.cons_append, List.cons.injEq] at back
      have known := inside first (by simp [front])
      simp [back.1, known] at outside

/-- A search that finds no closing fence finds none in fewer lines. -/
theorem codeLength?_eq_none_of_append
    {front back : List Text}
    (endless : codeLength? (front ++ back) = none) :
    codeLength? front = none := by
  induction front with
  | nil => rfl
  | cons text rest hypothesis =>
    rw [List.cons_append, codeLength?] at endless
    rw [codeLength?]
    cases opens : isTestHeading text with
    | true => rfl
    | false =>
      cases closes : Marker.closesFence text with
      | true => simp [opens, closes] at endless
      | false =>
        have later : codeLength? (rest ++ back) = none := by simpa [opens, closes] using endless
        simp [hypothesis later]

/-- Before a line outside the code of blocks a scan falls into two scans. -/
theorem Scanned.cut
    {number : Nat}
    {texts : List Text}
    {before after : List Line}
    {line : Line}
    (scanned : Scanned number texts (before ++ line :: after))
    (outside : line.kind.isInside = false) :
    ∃ front back, texts = front ++ back ∧ Scanned number front before ∧
      Scanned (number + before.length) back (line :: after) := by
  generalize whole : before ++ line :: after = lines at scanned
  induction scanned generalizing before with
  | nil number => simp at whole
  | @line number text rest lines unfenced following hypothesis =>
    rcases List.append_eq_cons_iff.mp whole with ⟨rfl, same⟩ | ⟨tail, rfl, below⟩
    · exact ⟨[], _, rfl, .nil _, same ▸ .line unfenced following⟩
    · rcases hypothesis below.symm with ⟨front, back, rfl, here, later⟩
      refine ⟨text :: front, back, rfl, .line unfenced here, ?_⟩
      rwa [List.length_cons, Nat.add_comm tail.length, ← Nat.add_assoc]
  | @unclosed number text language rest lines fenced endless following hypothesis =>
    rcases List.append_eq_cons_iff.mp whole with ⟨rfl, same⟩ | ⟨tail, rfl, below⟩
    · exact ⟨[], _, rfl, .nil _, same ▸ .unclosed fenced endless following⟩
    · rcases hypothesis below.symm with ⟨front, back, rfl, here, later⟩
      refine ⟨text :: front, back, rfl,
        .unclosed fenced (codeLength?_eq_none_of_append endless) here, ?_⟩
      rwa [List.length_cons, Nat.add_comm tail.length, ← Nat.add_assoc]
  | @block number text language close code rest lines fenced plain ends following hypothesis =>
    rcases List.append_eq_cons_iff.mp whole with ⟨rfl, same⟩ | ⟨tail, rfl, below⟩
    · exact ⟨[], _, rfl, .nil _, same ▸ .block fenced plain ends following⟩
    -- A cut within the block would fall on its code or on its closing fence.
    · rcases exists_of_append_eq (fun _ => isInside_of_mem_codeLines) rfl outside below with
        ⟨more, rfl, same⟩
      rcases hypothesis same.symm with ⟨front, back, rfl, here, later⟩
      refine ⟨text :: (code ++ close :: front), back, by simp, .block fenced plain ends here, ?_⟩
      have size : (codeLines (number + 1) code).length = code.length := by
        rw [← List.length_map Line.text, map_text_codeLines]
      have count : number + 1 + code.length + 1 + more.length =
          number + (code.length + (more.length + 1) + 1) := by omega
      rwa [List.length_cons, List.length_append, List.length_cons, size, ← count]

/-- A scan begins with its own number and text. -/
theorem Scanned.exists_cons
    {number : Nat}
    {texts : List Text}
    {line : Line}
    {lines : List Line}
    (scanned : Scanned number texts (line :: lines)) :
    line.number = number ∧ ∃ rest, texts = line.text :: rest := by
  cases scanned <;> exact ⟨rfl, _, rfl⟩

/-- Outside the code of blocks a scan goes on as if nothing came before. -/
theorem Scanned.suffix
    {number : Nat}
    {texts : List Text}
    {before after : List Line}
    {line : Line}
    (scanned : Scanned number texts (before ++ line :: after))
    (outside : line.kind.isInside = false) :
    ∃ rest, Scanned line.number (line.text :: rest) (line :: after) := by
  rcases scanned.cut outside with ⟨front, back, -, -, here⟩
  rcases here.exists_cons with ⟨own, rest, rfl⟩
  exact ⟨rest, own.symm ▸ here⟩

/-- The lines before one that stands outside blocks are a scan by themselves. -/
theorem Scanned.before
    {number : Nat}
    {texts : List Text}
    {before after : List Line}
    {line : Line}
    (scanned : Scanned number texts (before ++ line :: after))
    (outside : line.kind.isInside = false) :
    Scanned number (before.map Line.text) before := by
  rcases scanned.cut outside with ⟨front, back, -, here, -⟩
  rwa [here.map_text]

/-- Below a fence that is left open no fenced block ends. -/
theorem Scanned.endless
    {number : Nat}
    {texts : List Text}
    {opening : Line}
    {after : List Line}
    (scanned : Scanned number texts (opening :: after))
    (unclosed : opening.kind.isUnclosed = true) :
    codeLength? (after.map Line.text) = none := by
  cases scanned with
  | line unfenced following =>
    rw [isUnclosed_classify] at unclosed
    cases unclosed
  | unclosed fenced endless following => rwa [following.map_text]
  | block fenced plain ends following => cases unclosed

/-- A line that opens a closed block is followed by the block's code and closing fence. -/
theorem Scanned.exists_block
    {number : Nat}
    {text language : Text}
    {rest : List Text}
    {opening : Line}
    {after : List Line}
    (scanned : Scanned number (text :: rest) (opening :: after))
    (opens : opening.kind = .fenceOpen language true) :
    ∃ code close back lines, Marker.fenceLanguage? text = some language ∧
      rest = code ++ close :: back ∧ (∀ line ∈ code, IsCodeLine line) ∧ IsClosingFence close ∧
        after = codeLines (number + 1) code ++
          ⟨number + 1 + code.length, close, .fenceClose⟩ :: lines ∧
        Scanned (number + 1 + code.length + 1) back lines := by
  cases scanned with
  | line unfenced following =>
    have classified : classify text = .fenceOpen language true := opens
    have unfencedKind := isFenced_classify text
    rw [classified] at unfencedKind
    cases unfencedKind
  | unclosed fenced endless following => cases opens
  | block fenced plain ends following =>
    cases opens
    exact ⟨_, _, _, _, fenced, rfl, plain, ends, rfl, following⟩

/-- In a scan, a block that is said to have an end has it further down. -/
theorem exists_fenceClose
    {number : Nat}
    {texts : List Text}
    {before after : List Line}
    {opening : Line}
    (split : scanFrom number none texts = before ++ opening :: after)
    {language : Text}
    (opens : opening.kind = .fenceOpen language true) :
    ∃ line ∈ after, line.kind = .fenceClose := by
  have scanned := scanned_scanFrom number texts
  rw [split] at scanned
  rcases scanned.suffix (by rw [opens]; rfl) with ⟨rest, here⟩
  rcases here.exists_block opens with ⟨code, close, back, lines, -, -, -, -, below, -⟩
  rw [below]
  exact ⟨_, List.mem_append_right _ (List.mem_cons_self ..), rfl⟩

/-! ## Exchanging the code of a block -/

/-- The search for a closing fence goes no further than a line that closes one. -/
theorem codeLength?_append_closing
    {close : Text}
    (closes : Marker.closesFence close = true)
    (front back other : List Text) :
    codeLength? (front ++ close :: back) = codeLength? (front ++ close :: other) := by
  induction front with
  | nil => simp [codeLength?, closes]
  | cons text rest hypothesis => simp [codeLength?, hypothesis]

/-- The lines before an opening fence keep their kinds, whatever follows it. -/
theorem scanFrom_before_fence
    {number : Nat}
    {texts : List Text}
    {before after : List Line}
    {opening : Line}
    (split : scanFrom number none texts = before ++ opening :: after)
    {language : Text}
    {closed : Bool}
    (opens : opening.kind = .fenceOpen language closed)
    (fenced : Marker.closesFence opening.text = true)
    (other : List Text) :
    scanFrom number none (before.map Line.text ++ opening.text :: other) =
      before ++ scanFrom opening.number none (opening.text :: other) := by
  have outside : opening.kind.isInside = false := by
    rw [opens]
    rfl
  have scanned := scanned_scanFrom number texts
  rw [split] at scanned
  rcases scanned.cut outside with ⟨front, back, -, above, here⟩
  have own : scanFrom number none (before.map Line.text) = before := by
    rw [above.map_text, ← above.eq_scanFrom]
  -- A search from further up stops at the opening fence, so it misses the exchanged lines.
  have stay : StayOpen before (opening.text :: other) := by
    rintro outer unclosed inner rfl marked -
    have further : Scanned number texts (outer ++ unclosed :: (inner ++ opening :: after)) := by
      simpa using scanned
    rcases further.cut (LineKind.isInside_of_isUnclosed marked) with ⟨_, _, -, -, below⟩
    have endless := below.endless marked
    rwa [List.map_append, List.map_cons, codeLength?_append_closing fenced _ _ other] at endless
  rw [scanFrom_append_of_stayOpen (own.symm ▸ stay), own, List.length_map, ← here.exists_cons.1]

/-- Two runs of code that end in a closing fence are one. -/
theorem eq_of_append_fenceClose
    {code inside lines after : List Line}
    {close closing : Line}
    (coded : ∀ line ∈ code, line.kind = .code)
    (closes : close.kind = .fenceClose)
    (within : ∀ line ∈ inside, line.kind = .code)
    (ends : closing.kind = .fenceClose)
    (equal : code ++ close :: lines = inside ++ closing :: after) :
    code = inside ∧ close = closing ∧ lines = after := by
  have run : ∀ (front back : List Line) (last : Line), (∀ line ∈ front, line.kind = .code) →
      last.kind = .fenceClose →
        (front ++ last :: back).takeWhile (fun line => decide (line.kind = .code)) = front := by
    intro front back last plain ending
    rw [List.takeWhile_append_of_pos (by simpa using plain),
      List.takeWhile_cons_of_neg (by simp [ending]), List.append_nil]
  have same : code = inside := by
    rw [← run code lines close coded closes, equal, run inside after closing within ends]
  subst same
  have rest := List.append_cancel_left equal
  exact ⟨rfl, List.cons.inj rest⟩

/-- The code of a block may be exchanged for other code: all other lines keep their kinds. -/
theorem scanFrom_exchange
    {number : Nat}
    {texts : List Text}
    {before inside after : List Line}
    {opening closing : Line}
    (split : scanFrom number none texts = before ++ opening :: (inside ++ closing :: after))
    {language : Text}
    (opens : opening.kind = .fenceOpen language true)
    (within : ∀ line ∈ inside, line.kind = .code)
    (closes : closing.kind = .fenceClose)
    {code : List Text}
    (plain : ∀ text ∈ code, IsCodeLine text) :
    after = scanFrom (closing.number + 1) none (after.map Line.text) ∧
      closing.number = opening.number + 1 + inside.length ∧
      scanFrom number none
          (before.map Line.text ++
            opening.text :: (code ++ closing.text :: after.map Line.text)) =
        before ++ opening :: (codeLines (opening.number + 1) code ++
          ⟨opening.number + 1 + code.length, closing.text, .fenceClose⟩ ::
            scanFrom (opening.number + 1 + code.length + 1) none (after.map Line.text)) := by
  have scanned := scanned_scanFrom number texts
  rw [split] at scanned
  rcases scanned.suffix (by rw [opens]; rfl) with ⟨rest, here⟩
  rcases here.exists_block opens with ⟨own, close, back, lines, fenced, -, -, ends, below, later⟩
  rcases eq_of_append_fenceClose within closes (fun _ => kind_of_mem_codeLines) rfl below with
    ⟨inner, last, rfl⟩
  have size : inside.length = own.length := by
    rw [inner, ← List.length_map Line.text, map_text_codeLines]
  have back : after.map Line.text = back := later.map_text
  have text : closing.text = close := by rw [last]
  rw [← text] at ends
  refine ⟨?_, by rw [last, size], ?_⟩
  · rw [last, back]
    exact later.eq_scanFrom
  · have opening_eq : opening = ⟨opening.number, opening.text, .fenceOpen language true⟩ := by
      rw [← opens]
    rw [scanFrom_before_fence split opens (closesFence_of_fenceLanguage? fenced),
      scanFrom_block _ _ fenced plain ends, ← opening_eq]

end TechniquePages.Page
