import TechniquePages.Proofs.Html.Decoding
import TechniquePages.Proofs.Text.Lines
import Mathlib.Algebra.GroupWithZero.Nat

/-!
# Ink

A table puts blanks, bars and line feeds between the texts that it holds.  Every
other character is ink.  Cutting and trimming a text cost it no ink but what is
trimmed, and decoding costs it ink wherever it replaces a reference, since a
reference is longer than what it stands for.

So a reader that gives back all the ink of what was written has replaced nothing.
-/

namespace TechniquePages

namespace Text

/-- Any character but those that a table puts between texts. -/
def isInk (character : Char) : Bool :=
  character != ' ' && character != '\n' && character != '|'

/-- How many characters of a text are ink. -/
def ink (text : Text) : Nat :=
  text.countP isInk

@[simp]
theorem ink_nil : ink [] = 0 := rfl

@[simp]
theorem ink_append (front back : Text) : ink (front ++ back) = ink front + ink back :=
  List.countP_append

theorem ink_cons (character : Char) (rest : Text) :
    ink (character :: rest) = (if isInk character then 1 else 0) + ink rest := by
  rw [ink, List.countP_cons, Nat.add_comm]
  rfl

@[simp]
theorem ink_cons_of_isInk
    {character : Char}
    (inked : isInk character = true)
    (rest : Text) :
    ink (character :: rest) = ink rest + 1 :=
  List.countP_cons_of_pos inked

@[simp]
theorem ink_cons_of_not_isInk
    {character : Char}
    (blank : isInk character = false)
    (rest : Text) :
    ink (character :: rest) = ink rest :=
  List.countP_cons_of_neg (by simp [blank])

theorem ink_le_of_sublist
    {text other : Text}
    (sublist : text.Sublist other) :
    ink text ≤ ink other :=
  sublist.countP_le

theorem ink_le_length (text : Text) : ink text ≤ text.length :=
  List.countP_le_length

theorem ink_trim_le (text : Text) : ink (trim text) ≤ ink text :=
  ink_le_of_sublist (trim_sublist text)

/-- Cutting at a character that is no ink costs no ink. -/
theorem sum_ink_cutAt
    (separator : Char)
    (blank : isInk separator = false)
    (text : Text) :
    ((cutAt separator text).map ink).sum = ink text := by
  induction text with
  | nil => rfl
  | cons character rest hypothesis =>
    rw [cutAt]
    by_cases same : character = separator
    · subst same
      simp [hypothesis, blank]
    · rw [if_neg same]
      cases pieces : cutAt separator rest with
      | nil => exact absurd pieces (cutAt_ne_nil separator rest)
      | cons piece others =>
        rw [pieces, List.map_cons, List.sum_cons] at hypothesis
        rw [List.map_cons, List.sum_cons, ink_cons, ink_cons, Nat.add_assoc, hypothesis]

end Text

namespace Html

open Text (isInk ink)

/-! ## References -/

/-- A character of small bytes has one of them. -/
theorem length_utf8EncodeChar_of_lt
    {character : Char}
    (small : ∀ byte ∈ String.utf8EncodeChar character, byte < 124) :
    (String.utf8EncodeChar character).length = 1 := by
  unfold String.utf8EncodeChar at small ⊢
  generalize character.val.toNat = value at small ⊢
  simp only at small ⊢
  split
  · rfl
  · -- The first of several bytes is never small.
    rename_i large
    rw [if_neg large] at small
    exfalso
    split at small
    all_goals try split at small
    all_goals
      have first := small _ (List.mem_cons_self ..)
      rw [UInt8.lt_iff_toNat_lt, UInt8.toNat_ofNat'] at first
      simp only [UInt8.reduceToNat, Nat.reducePow] at first
      omega

/-- A name is ink throughout, and no shorter than what it stands for. -/
theorem length_le_ink_of_mem_all
    {entry : String × List Nat}
    (member : entry ∈ NamedReference.all) :
    entry.2.length ≤ ink entry.1.toList := by
  rcases byte_of_mem_all entry member with ⟨-, -, bytes, codes⟩
  have inside : ∀ character ∈ entry.1.toList, ∀ byte ∈ String.utf8EncodeChar character,
      48 ≤ byte ∧ byte ≠ 92 ∧ byte < 124 :=
    fun character present byte known => bytes byte (mem_toByteArray_of_mem_toList present known)
  have single : entry.1.toByteArray.data.toList.length = entry.1.toList.length := by
    rw [toList_toByteArray, List.length_flatMap, List.map_congr_left fun character present =>
      length_utf8EncodeChar_of_lt fun byte known => (inside character present byte known).2.2]
    simp
  have inked : ∀ character ∈ entry.1.toList, isInk character = true := by
    intro character present
    have small := inside character present
    have different : character ≠ ' ' ∧ character ≠ '\n' ∧ character ≠ '|' := by
      refine ⟨?_, ?_, ?_⟩ <;> rintro rfl
      · exact absurd (small 32 (by decide)).1 (by decide)
      · exact absurd (small 10 (by decide)).1 (by decide)
      · exact absurd (small 124 (by decide)).2.2 (by decide)
    simp [isInk, different]
  rw [Text.ink, List.countP_eq_length.mpr inked, ← single]
  exact codes

/-- A reference has more ink than what it stands for. -/
theorem ink_text_lt_of_reference?
    {rest : Text}
    {reference : Reference}
    (found : reference? rest = some reference) :
    ink reference.text < ink ('&' :: rest.take reference.length) := by
  have numbered : ∀ {value? : Char → Option Nat} {base lead : Nat} {digits more : Text},
      numbered? value? base (lead + 1) digits = some reference →
        ink reference.text < ink ('&' :: ('#' :: more).take reference.length) := by
    intro value? base lead digits more known
    rcases numbered?_eq_some known with ⟨single, signed, -⟩
    -- The number sign alone has as much ink as the character.
    have short := Text.ink_le_length reference.text
    cases length : reference.length with
    | zero => omega
    | succ count =>
      rw [List.take_succ_cons, Text.ink_cons_of_isInk rfl, Text.ink_cons_of_isInk rfl]
      omega
  unfold reference? at found
  split at found
  · exact numbered found
  · exact numbered found
  · exact numbered found
  · rcases longestName?_eq_some found with ⟨entry, member, begins, rfl⟩
    have codes := length_le_ink_of_mem_all member
    have short := Text.ink_le_length (entry.2.map Char.ofNat)
    have name := List.prefix_iff_eq_take.mp ((startsWith_iff _ _).mp begins)
    rw [List.length_map] at short
    simp only [← name, Text.ink_cons_of_isInk (show isInk '&' = true from rfl)]
    omega

/-! ## Decoding -/

/-- A text that begins with a reference loses ink, if what stands behind it gains none. -/
theorem ink_decode_lt_of_reference?
    {rest : Text}
    {reference : Reference}
    (found : reference? rest = some reference)
    (later : ink (decode (rest.drop reference.length)) ≤ ink (rest.drop reference.length)) :
    ink (decode ('&' :: rest)) < ink ('&' :: rest) := by
  have lighter := ink_text_lt_of_reference? found
  have whole : ink ('&' :: rest) =
      ink ('&' :: rest.take reference.length) + ink (rest.drop reference.length) := by
    rw [← Text.ink_append, List.cons_append, List.take_append_drop]
  rw [decode_ampersand found, Text.ink_append, whole]
  omega

/-- Decoding adds no ink, and takes some unless it leaves the text alone. -/
theorem ink_decode (text : Text) :
    ink (decode text) ≤ ink text ∧ (ink (decode text) = ink text → decode text = text) := by
  -- A reference is taken off as a whole, so the induction is on the length.
  induction size : text.length using Nat.strongRecOn generalizing text with
  | ind size hypothesis =>
    subst size
    cases text with
    | nil => exact ⟨Nat.le_refl _, fun _ => rfl⟩
    | cons character rest =>
      have plain : decode (character :: rest) = character :: decode rest →
          ink (decode (character :: rest)) ≤ ink (character :: rest) ∧
            (ink (decode (character :: rest)) = ink (character :: rest) →
              decode (character :: rest) = character :: rest) := by
        intro same
        have later := hypothesis rest.length (by simp) rest rfl
        rw [same, Text.ink_cons, Text.ink_cons]
        refine ⟨by omega, fun equal => ?_⟩
        rw [later.2 (by omega)]
      by_cases ampersand : character = '&'
      · subst ampersand
        cases found : reference? rest with
        | none => exact plain (decode_bare_ampersand found)
        | some reference =>
          have later := (hypothesis (rest.drop reference.length).length
            (by rw [List.length_drop, List.length_cons]; omega) _ rfl).1
          have lighter := ink_decode_lt_of_reference? found later
          exact ⟨lighter.le, fun equal => absurd equal lighter.ne⟩
      · exact plain (decode_cons ampersand rest)

/-- A part of a text without references is decoded to the text only if it is all of it. -/
theorem decode_eq_iff_of_sublist
    {part text : Text}
    (sublist : part.Sublist text)
    (decoded : decode text = text) :
    decode part = text ↔ part = text := by
  constructor
  · intro same
    rcases ink_decode part with ⟨atMost, kept⟩
    have less := Text.ink_le_of_sublist sublist
    rw [same] at atMost
    rw [← kept (by rw [same]; omega), same]
  · rintro rfl
    exact decoded

end Html

end TechniquePages
