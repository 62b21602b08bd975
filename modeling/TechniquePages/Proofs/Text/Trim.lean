import TechniquePages.Text
import Mathlib.Data.List.DropRight
import Mathlib.Data.List.TakeWhile

/-!
# Trimmed texts

A text is trimmed when trimming leaves it alone, which is the same as having no
blank at either end.  Readers trim what they find between marks, and writers
put blanks around what they write, so the equations below say how blanks at the
ends of a text come and go.
-/

namespace TechniquePages.Text

open Unicode (isBlank)

/-- Trimming leaves the text alone. -/
def IsTrimmed (text : Text) : Prop :=
  trim text = text

instance (text : Text) : Decidable (IsTrimmed text) :=
  inferInstanceAs (Decidable (trim text = text))

theorem trimEnd_eq_rdropWhile (text : Text) :
    trimEnd text = text.rdropWhile isBlank := rfl

@[simp]
theorem trimStart_cons_of_blank
    {character : Char}
    (rest : Text)
    (blank : isBlank character = true) :
    trimStart (character :: rest) = trimStart rest := by
  simp [trimStart, blank]

@[simp]
theorem trimStart_cons_of_not_blank
    {character : Char}
    (rest : Text)
    (solid : isBlank character = false) :
    trimStart (character :: rest) = character :: rest := by
  simp [trimStart, solid]

/-- A text whose last character is no blank keeps its end. -/
theorem trimEnd_eq_self_of_getLast?
    (text : Text)
    (solid : ∀ character ∈ text.getLast?, isBlank character = false) :
    trimEnd text = text := by
  rw [trimEnd_eq_rdropWhile, List.rdropWhile_eq_self_iff]
  intro nonempty
  have notBlank :=
    solid (text.getLast nonempty) (by simp [List.getLast?_eq_getLast_of_ne_nil nonempty])
  simp [notBlank]

/-- A text is trimmed when neither of its ends is a blank. -/
theorem isTrimmed_iff (text : Text) :
    IsTrimmed text ↔
      (∀ character ∈ text.head?, isBlank character = false) ∧
        ∀ character ∈ text.getLast?, isBlank character = false := by
  constructor
  · intro trimmed
    have shorter : (trimEnd (trimStart text)).length = text.length :=
      congrArg List.length trimmed
    have endLength : (trimEnd (trimStart text)).length ≤ (trimStart text).length :=
      (List.rdropWhile_prefix isBlank (trimStart text)).length_le
    have suffix : trimStart text <:+ text := List.dropWhile_suffix isBlank
    have startLength := suffix.length_le
    have startSame : trimStart text = text := suffix.eq_of_length (by omega)
    have endSame : trimEnd text = text := by
      have trimmedEnd : trimEnd (trimStart text) = text := trimmed
      rwa [startSame] at trimmedEnd
    constructor
    · intro character first
      cases text with
      | nil => simp at first
      | cons head rest =>
        have same : head = character := by simpa using first
        subst same
        have notBlank := List.dropWhile_eq_self_iff.mp startSame (by simp)
        simpa using notBlank
    · intro character last
      rw [trimEnd_eq_rdropWhile, List.rdropWhile_eq_self_iff] at endSame
      have nonempty : text ≠ [] := by
        rintro rfl
        simp at last
      have same : text.getLast nonempty = character := by
        rw [List.getLast?_eq_getLast_of_ne_nil nonempty] at last
        simpa using last
      simpa [same] using endSame nonempty
  · rintro ⟨first, last⟩
    have startSame : trimStart text = text := by
      cases text with
      | nil => rfl
      | cons head rest => exact trimStart_cons_of_not_blank rest (first head (by simp))
    unfold IsTrimmed trim
    rw [startSame]
    exact trimEnd_eq_self_of_getLast? text last

theorem IsTrimmed.trim_eq
    {text : Text}
    (trimmed : IsTrimmed text) :
    trim text = text := trimmed

/-- Trimming takes characters off. -/
theorem trim_sublist (text : Text) : (trim text).Sublist text :=
  (List.rdropWhile_prefix isBlank _).sublist.trans
    (List.dropWhile_suffix isBlank).sublist

/-- Nothing is left of blanks alone. -/
theorem trim_eq_nil_iff (text : Text) :
    trim text = [] ↔ ∀ character ∈ text, isBlank character = true := by
  unfold trim
  rw [trimEnd_eq_rdropWhile, List.rdropWhile_eq_nil_iff]
  constructor
  · intro blank
    cases start : trimStart text with
    | nil => exact List.dropWhile_eq_nil_iff.mp start
    | cons first rest =>
      have solid := List.head?_dropWhile_not isBlank text
      rw [show (text.dropWhile isBlank).head? = some first from congrArg List.head? start] at solid
      have known := blank first (by simp [start])
      simp [known] at solid
  · intro blank character member
    exact blank character ((List.dropWhile_suffix isBlank).subset member)

@[simp]
theorem trimEnd_append_of_blank
    {character : Char}
    (text : Text)
    (blank : isBlank character = true) :
    trimEnd (text ++ [character]) = trimEnd text :=
  List.rdropWhile_concat_pos isBlank text character blank

/-- A blank at the start is dropped. -/
@[simp]
theorem trim_cons_of_blank
    {character : Char}
    (rest : Text)
    (blank : isBlank character = true) :
    trim (character :: rest) = trim rest := by
  simp [trim, blank]

/-- A blank at the end is dropped. -/
@[simp]
theorem trim_append_of_blank
    {character : Char}
    (text : Text)
    (blank : isBlank character = true) :
    trim (text ++ [character]) = trim text := by
  unfold trim
  induction text with
  | nil => simp [blank]
  | cons head rest hypothesis =>
    cases solid : isBlank head with
    | true => simpa [solid] using hypothesis
    | false =>
      rw [List.cons_append, trimStart_cons_of_not_blank _ solid,
        trimStart_cons_of_not_blank _ solid, ← List.cons_append]
      exact trimEnd_append_of_blank (head :: rest) blank

/-- Nothing is left to trim after trimming. -/
theorem isTrimmed_trim (text : Text) : IsTrimmed (trim text) := by
  rw [isTrimmed_iff]
  constructor
  · intro character first
    have isPrefix : trim text <+: trimStart text :=
      List.rdropWhile_prefix isBlank (trimStart text)
    have head : character ∈ (trimStart text).head? := by
      rcases isPrefix with ⟨rest, split⟩
      rw [← split]
      cases kept : trim text with
      | nil => simp [kept] at first
      | cons start tail => simpa [kept] using first
    have known := List.head?_dropWhile_not isBlank text
    rw [show (text.dropWhile isBlank).head? = some character from head] at known
    simpa using known
  · intro character last
    have nonempty : (trimStart text).rdropWhile isBlank ≠ [] := by
      intro empty
      have none : trim text = [] := empty
      simp [none] at last
    have notBlank := List.rdropWhile_last_not isBlank (trimStart text) nonempty
    have same : ((trimStart text).rdropWhile isBlank).getLast nonempty = character := by
      have known : ((trimStart text).rdropWhile isBlank).getLast? = some character := last
      rw [List.getLast?_eq_getLast_of_ne_nil nonempty] at known
      simpa using known
    simpa [same] using notBlank

/-- Blanks around a trimmed text come off together. -/
theorem IsTrimmed.trim_between
    {text : Text}
    (trimmed : IsTrimmed text)
    {before after : Char}
    (blankBefore : isBlank before = true)
    (blankAfter : isBlank after = true) :
    trim (before :: (text ++ [after])) = text := by
  rw [trim_cons_of_blank _ blankBefore, trim_append_of_blank _ blankAfter]
  exact trimmed

/-- A text with a solid end keeps it, whatever stands before. -/
theorem trimEnd_append_of_getLast?
    (front back : Text)
    {character : Char}
    (last : back.getLast? = some character)
    (solid : isBlank character = false) :
    trimEnd (front ++ back) = front ++ back := by
  apply trimEnd_eq_self_of_getLast?
  intro other known
  have same : character = other := by
    rw [List.getLast?_append, last] at known
    simpa using known
  exact same ▸ solid

end TechniquePages.Text
