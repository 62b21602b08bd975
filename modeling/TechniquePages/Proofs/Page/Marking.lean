import TechniquePages.Proofs.Page.Scanning
import TechniquePages.Proofs.Text.Lines

/-!
# Marked lines

A line has at most one heading mark, so a line that one form fits is left alone
by the forms of other levels; and every form makes a kind of its own.  From this it
follows which lines open a test: a line does exactly when a scan gives it the kind
of a test heading, wherever it stands.
-/

namespace TechniquePages.Page

open Unicode (isBlank isDecimalDigit)
open Text (IsTrimmed)

/-! ## Characters -/

theorem isBlank_eq_false_of_visible
    {character : Char}
    (above : 0x20 < character.toNat)
    (below : character.toNat < 0x80) :
    isBlank character = false := by
  rw [isBlank, ← Bool.not_eq_true, Unicode.Ranges.covers_iff]
  rintro ⟨range, member, first, last⟩
  simp only [Unicode.blanks, List.mem_cons, List.not_mem_nil, or_false] at member
  rcases member with rfl | rfl | rfl | rfl | rfl | rfl | rfl | rfl | rfl | rfl <;>
    simp only at first last <;> omega

/-- A digit, a letter, an underscore or a hyphen is a visible character. -/
theorem Marker.visible_of_isLanguageCharacter
    {character : Char}
    (word : Marker.isLanguageCharacter character = true) :
    0x20 < character.toNat ∧ character.toNat < 0x80 := by
  have upper : character.isUpper =
      decide (character.val ≥ 'A'.val ∧ character.val ≤ 'Z'.val) := rfl
  have lower : character.isLower =
      (decide (character.val ≥ 'a'.val) && decide (character.val ≤ 'z'.val)) := rfl
  have letter : character.isAlpha = (character.isUpper || character.isLower) := rfl
  simp only [Marker.isLanguageCharacter, Char.isAlphanum, letter, upper, lower, Char.isDigit,
    Bool.or_eq_true, Bool.and_eq_true, decide_eq_true_eq, beq_iff_eq, UInt32.le_iff_toNat_le,
    ge_iff_le, Char.toNat_val, Char.reduceToNat] at word
  rcases word with ((((⟨first, last⟩ | ⟨first, last⟩) | ⟨first, last⟩) | rfl) | rfl)
  · omega
  · omega
  · omega
  · decide
  · decide

theorem isDecimalDigit_of_isDigit
    {character : Char}
    (digit : character.isDigit = true) :
    isDecimalDigit character = true := by
  simp only [Char.isDigit, Bool.and_eq_true, decide_eq_true_eq, UInt32.le_iff_toNat_le,
    ge_iff_le, Char.toNat_val, Char.reduceToNat] at digit
  rw [isDecimalDigit, Unicode.Ranges.covers_iff]
  exact ⟨(0x30, 0x39), by simp [Unicode.decimalDigits], digit⟩

/-! ## Heading marks -/

/-- What follows a heading mark begins with a blank, and the mark has that many hashes. -/
theorem Marker.headingText?_eq_some
    {level : Nat}
    {text rest : Text}
    (marked : Marker.headingText? level text = some rest) :
    ∃ blank more, isBlank blank = true ∧ text = List.replicate level '#' ++ blank :: more := by
  simp only [Marker.headingText?, Option.bind_eq_bind, Option.bind_eq_some_iff] at marked
  rcases marked with ⟨after, found, blanks⟩
  rw [Text.after?_eq_some_iff] at found
  cases after with
  | nil => simp [Marker.afterBlanks?] at blanks
  | cons blank more =>
    cases isBlankFirst : isBlank blank with
    | false => simp [Marker.afterBlanks?, isBlankFirst] at blanks
    | true => exact ⟨blank, more, isBlankFirst, found⟩

/-- The number signs of a heading mark are those at the start of the text. -/
theorem takeWhile_sign_of_blank
    (level : Nat)
    {rest : Text}
    (blank : ∀ character ∈ rest.head?, isBlank character = true) :
    (List.replicate level '#' ++ rest).takeWhile (· == '#') = List.replicate level '#' ∧
      (List.replicate level '#' ++ rest).dropWhile (· == '#') = rest := by
  have signs : ∀ character ∈ List.replicate level '#', (character == '#') = true := by
    intro character member
    rw [List.eq_of_mem_replicate member]
    rfl
  rw [List.takeWhile_append_of_pos signs, List.dropWhile_append_of_pos signs]
  cases rest with
  | nil => simp
  | cons first more =>
    have different : (first == '#') = false := by
      rw [beq_eq_false_iff_ne]
      rintro rfl
      exact absurd (blank '#' rfl) (by decide)
    simp [different]

/-- Two heading marks at the start of one text are of one level. -/
theorem level_eq_of_sign_append
    {level other : Nat}
    {rest otherRest : Text}
    (blank : ∀ character ∈ rest.head?, isBlank character = true)
    (otherBlank : ∀ character ∈ otherRest.head?, isBlank character = true)
    (same : List.replicate level '#' ++ rest = List.replicate other '#' ++ otherRest) :
    level = other := by
  have signs := (takeWhile_sign_of_blank level blank).1
  rw [same, (takeWhile_sign_of_blank other otherBlank).1] at signs
  simpa using (congrArg List.length signs).symm

/-- A line has at most one heading mark. -/
theorem Marker.headingText?_eq_none_of_ne
    {level other : Nat}
    {text : Text}
    (marked : (Marker.headingText? level text).isSome)
    (different : other ≠ level) :
    Marker.headingText? other text = none := by
  rcases Option.isSome_iff_exists.mp marked with ⟨rest, known⟩
  rcases Marker.headingText?_eq_some known with ⟨blank, more, isBlankFirst, rfl⟩
  cases answer : Marker.headingText? other (List.replicate level '#' ++ blank :: more) with
  | none => rfl
  | some otherRest =>
    rcases Marker.headingText?_eq_some answer with ⟨otherBlank, otherMore, otherFirst, equal⟩
    exact absurd (level_eq_of_sign_append (by simpa using otherFirst) (by simpa using isBlankFirst)
      equal.symm) different

/-! ## Test headings -/

theorem Marker.afterHeading?_eq_some
    {level : Nat}
    {words : String}
    {text rest : Text}
    (found : Marker.afterHeading? level words text = some rest) :
    Marker.headingText? level text = some (words.toList ++ rest) := by
  simp only [Marker.afterHeading?, Option.bind_eq_bind, Option.bind_eq_some_iff] at found
  rcases found with ⟨more, heading, after⟩
  rw [Text.after?_eq_some_iff] at after
  exact after ▸ heading

theorem Marker.testHeading?_eq_some
    {text : Text}
    {kind : LineKind}
    (found : Marker.testHeading? text = some kind) :
    (Marker.headingText? 2 text).isSome ∧ ∃ name, kind = .testHeading name := by
  simp only [Marker.testHeading?, Option.bind_eq_bind, Option.bind_eq_some_iff] at found
  rcases found with ⟨rest, heading, -, -, -, -, ⟨-, -⟩, -, -, -, last, -, answer⟩
  refine ⟨by rw [Marker.afterHeading?_eq_some heading]; rfl, ?_⟩
  split at answer
  · split at answer
    · exact ⟨_, (Option.some.inj answer).symm⟩
    · simp at answer
  · simp at answer

/-! ## Kinds and their readers -/

/-- The reader of marks that makes a kind, if one does. -/
def LineKind.form? : LineKind → Option (Text → Option LineKind)
  | .title _ _ => some Marker.title?
  | .testHeading _ => some Marker.testHeading?
  | .descriptionHeading => some Marker.descriptionHeading?
  | .platforms _ => some Marker.platforms?
  | .guid _ => some Marker.guid?
  | .inputsHeading => some Marker.inputsHeading?
  | .manualHeading _ => some Marker.manualHeading?
  | .commandHeading _ _ => some Marker.commandHeading?
  | .cleanupHeading => some Marker.cleanupHeading?
  | .dependenciesHeading _ => some Marker.dependenciesHeading?
  | .dependency _ => some Marker.dependency?
  | .checkHeading => some Marker.checkHeading?
  | .getHeading => some Marker.getHeading?
  | _ => none

/-- A kind that a form makes is made by no other form. -/
theorem form?_of_mem_forms
    {form : Text → Option LineKind}
    (member : form ∈ Marker.forms)
    {text : Text}
    {kind : LineKind}
    (found : form text = some kind) :
    kind.form? = some form := by
  simp only [Marker.forms, List.mem_cons, List.not_mem_nil, or_false] at member
  rcases member with rfl | rfl | rfl | rfl | rfl | rfl | rfl | rfl | rfl | rfl | rfl | rfl | rfl
  case inr.inl =>
    rcases (Marker.testHeading?_eq_some found).2 with ⟨name, rfl⟩
    rfl
  all_goals
    simp only [Marker.title?, Marker.descriptionHeading?, Marker.platforms?, Marker.guid?,
      Marker.inputsHeading?, Marker.manualHeading?, Marker.commandHeading?,
      Marker.cleanupHeading?, Marker.dependenciesHeading?, Marker.dependency?,
      Marker.checkHeading?, Marker.getHeading?, Option.bind_eq_bind,
      Option.bind_eq_some_iff] at found
    grind [LineKind.form?]

/-- A line of one form takes its kind if no form before it fits. -/
theorem classify_eq_of_form
    {before after : List (Text → Option LineKind)}
    {form : Text → Option LineKind}
    {text : Text}
    {kind : LineKind}
    (order : Marker.forms = before ++ form :: after)
    (others : ∀ earlier ∈ before, earlier text = none)
    (found : form text = some kind) :
    classify text = kind := by
  have none : before.findSome? (· text) = none :=
    List.findSome?_eq_none_iff.mpr others
  simp [classify, order, List.findSome?_append, none, found]

/-- The kind of a line comes from one of the forms, or from its being another heading or prose. -/
theorem classify_cases (text : Text) :
    (∃ form ∈ Marker.forms, form text = some (classify text)) ∨
      (∃ level, classify text = .heading level) ∨ classify text = .prose := by
  unfold classify
  cases found : Marker.forms.findSome? (· text) with
  | some kind =>
    rcases List.exists_of_findSome?_eq_some found with ⟨form, member, answer⟩
    exact Or.inl ⟨form, member, by simpa using answer⟩
  | none =>
    cases heading : Marker.heading? text with
    | none => exact Or.inr (Or.inr (by simp))
    | some kind =>
      refine Or.inr (Or.inl ?_)
      simp only [Marker.heading?] at heading
      split at heading
      · exact ⟨_, by simpa using heading.symm⟩
      · simp at heading

/-- A line outside fenced blocks opens a test if and only if its kind says so. -/
theorem testName?_classify (text : Text) :
    (classify text).testName?.isSome = isTestHeading text := by
  cases found : Marker.testHeading? text with
  | some kind =>
    rcases Marker.testHeading?_eq_some found with ⟨marked, name, rfl⟩
    have untitled : Marker.title? text = none := by
      have unmarked := Marker.headingText?_eq_none_of_ne marked (show 1 ≠ 2 by decide)
      simp [Marker.title?, unmarked]
    have known : classify text = .testHeading name :=
      @classify_eq_of_form [Marker.title?] _ _ _ _ rfl (by simp [untitled]) found
    simp [known, isTestHeading, found, LineKind.testName?]
  | none =>
    have other : ∀ name, classify text ≠ .testHeading name := by
      intro name equal
      rcases classify_cases text with ⟨form, member, answer⟩ | ⟨level, heading⟩ | prose
      · have same := form?_of_mem_forms member answer
        rw [equal, LineKind.form?, Option.some.injEq] at same
        simp [← same, found] at answer
      · simp [equal] at heading
      · simp [equal] at prose
    cases kind : classify text with
    | testHeading name => exact absurd kind (other name)
    | _ => simp [LineKind.testName?, isTestHeading, found]

/-- A line that opens a test opens no fenced block. -/
theorem fenceLanguage?_of_isTestHeading
    {text : Text}
    (opens : isTestHeading text = true) :
    Marker.fenceLanguage? text = none := by
  rcases Option.isSome_iff_exists.mp opens with ⟨kind, found⟩
  rcases Option.isSome_iff_exists.mp (Marker.testHeading?_eq_some found).1 with ⟨rest, marked⟩
  rcases Marker.headingText?_eq_some marked with ⟨blank, more, -, rfl⟩
  rfl

end TechniquePages.Page
