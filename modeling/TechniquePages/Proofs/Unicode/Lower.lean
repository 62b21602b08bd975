import TechniquePages.Unicode.Case

/-!
# What converted text can hold

Conversion to lower case keeps a character or makes a character from `a` on.  So
it makes no control, no blank of ASCII and no punctuation that was not there.
Conversion to upper case makes characters from `A` on.
-/

namespace TechniquePages.Unicode

/-- Every run moves to characters from `a` on. -/
theorem bounds_of_mem_lowerRuns :
    ∀ run ∈ lowerRuns, 0x60 < run.first + run.distance ∧
      (run.last + run.distance < 0xD800 ∨
        0xDFFF < run.first + run.distance ∧ run.last + run.distance < 0x110000) := by
  decide +kernel

theorem CaseRun.find?_eq_some
    {runs : List CaseRun}
    {character : Char}
    {run : CaseRun}
    (found : CaseRun.find? runs character = some run) :
    run ∈ runs ∧ run.first ≤ character.toNat ∧ character.toNat ≤ run.last := by
  have inside := List.find?_some found
  simp only [Bool.and_eq_true, decide_eq_true_eq] at inside
  exact ⟨List.mem_of_find?_eq_some found, inside.1⟩

theorem toNat_ofNat_of_valid
    {number : Nat}
    (valid : number < 0xD800 ∨ 0xDFFF < number ∧ number < 0x110000) :
    (Char.ofNat number).toNat = number := by
  have isValid : number.isValidChar := valid
  rw [Char.ofNat, dif_pos isValid]
  rfl

theorem mem_lowerCharacter
    {source character : Char}
    (member : character ∈ lowerCharacter source) :
    character = source ∨ 0x60 < character.toNat := by
  rw [lowerCharacter] at member
  split at member
  · right
    simp only [List.mem_cons, List.not_mem_nil, or_false] at member
    rcases member with rfl | rfl <;> decide
  · rw [List.mem_singleton, CaseRun.move] at member
    cases found : CaseRun.find? lowerRuns source with
    | none =>
      rw [found] at member
      exact Or.inl member
    | some run =>
      rw [found] at member
      rcases CaseRun.find?_eq_some found with ⟨inRuns, first, last⟩
      have bounds := bounds_of_mem_lowerRuns run inRuns
      right
      rw [member, toNat_ofNat_of_valid (by omega)]
      omega

/-- No run begins before the capital letters of ASCII. -/
theorem first_of_mem_lowerRuns :
    ∀ run ∈ lowerRuns, 0x40 < run.first := by
  decide +kernel

/-- Digits and the punctuation before the letters have no case. -/
theorem lowerCharacter_eq_self
    {character : Char}
    (caseless : character.toNat ≤ 0x40) :
    lowerCharacter character = [character] := by
  have undotted : character ≠ '\u0130' := by
    rintro rfl
    exact absurd caseless (by decide)
  have unmoved : CaseRun.find? lowerRuns character = none := by
    rw [← Option.not_isSome_iff_eq_none, Option.isSome_iff_exists]
    rintro ⟨run, found⟩
    rcases CaseRun.find?_eq_some found with ⟨inRuns, first, -⟩
    have above := first_of_mem_lowerRuns run inRuns
    omega
  rw [lowerCharacter, if_neg undotted, CaseRun.move, unmoved]

theorem mem_lowerAfter
    {before text : Text}
    {character : Char}
    (member : character ∈ lowerAfter before text) :
    character ∈ text ∨ 0x60 < character.toNat := by
  induction text generalizing before with
  | nil => simp [lowerAfter] at member
  | cons source rest hypothesis =>
    rw [lowerAfter, List.mem_append] at member
    rcases member with own | later
    · split at own
      · right
        rw [List.mem_singleton] at own
        rw [own]
        split <;> decide
      · rcases mem_lowerCharacter own with rfl | above
        · exact Or.inl (List.mem_cons_self ..)
        · exact Or.inr above
    · rcases hypothesis later with inRest | above
      · exact Or.inl (List.mem_cons_of_mem _ inRest)
      · exact Or.inr above

/-- A character of the lower case was there before, or is one from `a` on. -/
theorem mem_lower
    {text : Text}
    {character : Char}
    (member : character ∈ lower text) :
    character ∈ text ∨ 0x60 < character.toNat :=
  mem_lowerAfter member

/-- No character is lost. -/
theorem lower_ne_nil
    {text : Text}
    (nonempty : text ≠ []) :
    lower text ≠ [] := by
  cases text with
  | nil => exact absurd rfl nonempty
  | cons character rest =>
    have converted : lowerCharacter character ≠ [] := by
      rw [lowerCharacter]
      split <;> exact List.cons_ne_nil _ _
    rw [lower, lowerAfter]
    refine List.append_ne_nil_of_left_ne_nil ?_ _
    split
    · exact List.cons_ne_nil _ _
    · exact converted

/-- A text without a capital sigma is converted character by character, whatever follows it. -/
theorem lowerAfter_append
    {front : Text}
    (plain : '\u03a3' ∉ front)
    (before back : Text) :
    lowerAfter before (front ++ back) =
      front.flatMap lowerCharacter ++ lowerAfter (front.reverse ++ before) back := by
  induction front generalizing before with
  | nil => rfl
  | cons character rest hypothesis =>
    rw [List.mem_cons, not_or] at plain
    rw [List.cons_append, lowerAfter, if_neg (Ne.symm plain.1), hypothesis plain.2,
      List.flatMap_cons, List.append_assoc, List.reverse_cons, List.append_assoc,
      List.singleton_append]

theorem lower_eq_flatMap
    {text : Text}
    (plain : '\u03a3' ∉ text) :
    lower text = text.flatMap lowerCharacter := by
  simpa [lower, lowerAfter] using lowerAfter_append plain [] []

/-! ## Upper case -/

/-- Every run moves to characters from `A` on. -/
theorem bounds_of_mem_upperRuns :
    ∀ run ∈ upperRuns, 0x40 < run.first + run.distance ∧
      (run.last + run.distance < 0xD800 ∨
        0xDFFF < run.first + run.distance ∧ run.last + run.distance < 0x110000) := by
  decide +kernel

theorem bounds_of_mem_upperSequences :
    ∀ entry ∈ upperSequences, ∀ code ∈ entry.2, 0x40 < (Char.ofNat code).toNat := by
  decide +kernel

/-- A character of the upper case was there before, or is one from `A` on. -/
theorem mem_upperCharacter
    {source character : Char}
    (member : character ∈ upperCharacter source) :
    character = source ∨ 0x40 < character.toNat := by
  rw [upperCharacter] at member
  split at member
  · rename_i codes found
    rcases List.mem_map.mp member with ⟨code, inside, rfl⟩
    rcases List.lookup_eq_some_iff.mp found with ⟨before, after, split, -⟩
    exact Or.inr (bounds_of_mem_upperSequences (source.toNat, codes) (by simp [split]) code inside)
  · rw [List.mem_singleton, CaseRun.move] at member
    cases found : CaseRun.find? upperRuns source with
    | none =>
      rw [found] at member
      exact Or.inl member
    | some run =>
      rw [found] at member
      rcases CaseRun.find?_eq_some found with ⟨inRuns, first, last⟩
      have bounds := bounds_of_mem_upperRuns run inRuns
      right
      rw [member, toNat_ofNat_of_valid (by omega)]
      omega

end TechniquePages.Unicode
