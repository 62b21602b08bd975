import TechniquePages.Proofs.Html.Ink

/-!
# Escaped texts and their references

A reader who decodes does not see whether a backslash was written as a reference:
the ampersand of that reference ends whatever was begun before it, and nothing is
left open behind it.  So an escaped text is read as the text itself would be, and
it is restored exactly when the text holds no reference of its own.
-/

namespace TechniquePages.Html

/-- No ampersand of the text begins a reference. -/
def IsReferenceFree (text : Text) : Prop :=
  ∀ rest, '&' :: rest <:+ text → reference? rest = none

theorem isReferenceFree_nil : IsReferenceFree [] := by
  intro rest ends
  simp at ends

/-- A text has the references of its rest, and perhaps one at its start. -/
theorem isReferenceFree_cons_iff
    (character : Char)
    (rest : Text) :
    IsReferenceFree (character :: rest) ↔
      (character = '&' → reference? rest = none) ∧ IsReferenceFree rest := by
  constructor
  · intro free
    refine ⟨?_, fun below ends => free below (ends.trans (List.suffix_cons character rest))⟩
    rintro rfl
    exact free rest (List.suffix_refl _)
  · rintro ⟨first, later⟩ below ends
    rcases List.suffix_cons_iff.mp ends with same | inRest
    · rcases List.cons.inj same with ⟨rfl, rfl⟩
      exact first rfl
    · exact later below inRest

/-- Exactly the texts without references are decoded to themselves. -/
theorem decode_eq_self_iff (text : Text) : decode text = text ↔ IsReferenceFree text := by
  induction text with
  | nil => exact iff_of_true rfl isReferenceFree_nil
  | cons character rest hypothesis =>
    have kept : decode (character :: rest) = character :: decode rest →
        (decode (character :: rest) = character :: rest ↔ IsReferenceFree rest) := by
      intro same
      rw [same, List.cons.injEq, hypothesis]
      exact and_iff_right rfl
    rw [isReferenceFree_cons_iff]
    by_cases ampersand : character = '&'
    · subst ampersand
      cases found : reference? rest with
      | none =>
        rw [kept (decode_bare_ampersand found)]
        exact (and_iff_right fun _ => rfl).symm
      | some reference =>
        refine iff_of_false (fun same => ?_) (fun free => ?_)
        · have lighter := ink_decode_lt_of_reference? found (ink_decode _).1
          rw [same] at lighter
          exact Nat.lt_irrefl _ lighter
        · exact absurd (free.1 rfl) (by simp)
    · rw [kept (decode_cons ampersand rest)]
      exact (and_iff_right fun same => absurd same ampersand).symm

/--
Escaping is transparent to a reader who decodes.  An escaped text is decoded as the text
itself is; a backslash written as a reference is read as one wherever it stands, also
where an unfinished reference stands before it; and exactly the texts without references
of their own are restored from their escaped form.
-/
theorem escaping_is_transparent :
    (∀ text, decode (escapeBackslashes text) = decode text) ∧
      (∀ front back, decode (front ++ "&#92;".toList ++ back) =
        decode front ++ '\\' :: decode back) ∧
      ∀ text, decode (escapeBackslashes text) = text ↔ IsReferenceFree text := by
  refine ⟨decode_escapeBackslashes, fun front back => ?_, fun text => ?_⟩
  · calc decode (front ++ "&#92;".toList ++ back)
        = decode (front ++ ("&#92;".toList ++ back)) := by rw [List.append_assoc]
      _ = decode front ++ decode ("&#92;".toList ++ back) :=
          decode_append_of_stops (stops_cons (Or.inl rfl) _) front
      _ = decode front ++ '\\' :: decode back := by rw [decode_escaped_backslash]
  · rw [decode_escapeBackslashes, decode_eq_self_iff]

end TechniquePages.Html
