import TechniquePages.Json.Quoted
import Mathlib.Tactic.SplitIfs

/-!
# Escapes are undone

Every character has one written form between quotation marks, and each form is
read back as its character, whatever follows.  So a quoted text is read up to
its own closing mark, for all characters.
-/

namespace TechniquePages.Json.Quoted

/-- The two digits of a control give back its number. -/
theorem hexValue4?_hexDigit :
    ∀ number < 32,
      hexValue4? '0' '0' (hexDigit (number / 16)) (hexDigit (number % 16)) = some number := by
  decide

/-- A character has an escape of two characters, one of six, or stands for itself. -/
theorem escape_cases (character : Char) :
    (∃ letter, escape character = ['\\', letter] ∧ letter ≠ 'u' ∧
      (∀ rest, readEscape (letter :: rest) = .ok (character, 1)) ∧
        ∀ rest, skipEscape (letter :: rest) = .ok 1) ∨
    (∃ third fourth, escape character = ['\\', 'u', '0', '0', third, fourth] ∧
      hexValue4? '0' '0' third fourth = some character.toNat ∧ character.toNat < 0x20) ∨
    (escape character = [character] ∧ character ≠ '\"' ∧ character ≠ '\\' ∧
      ¬ character.toNat < 0x20) := by
  unfold escape
  split_ifs with quote backslash backspace formFeed lineFeed carriageReturn tab control
  · subst quote
    exact Or.inl ⟨'\"', rfl, by decide, fun _ => rfl, fun _ => rfl⟩
  · subst backslash
    exact Or.inl ⟨'\\', rfl, by decide, fun _ => rfl, fun _ => rfl⟩
  · subst backspace
    exact Or.inl ⟨'b', rfl, by decide, fun _ => rfl, fun _ => rfl⟩
  · subst formFeed
    exact Or.inl ⟨'f', rfl, by decide, fun _ => rfl, fun _ => rfl⟩
  · subst lineFeed
    exact Or.inl ⟨'n', rfl, by decide, fun _ => rfl, fun _ => rfl⟩
  · subst carriageReturn
    exact Or.inl ⟨'r', rfl, by decide, fun _ => rfl, fun _ => rfl⟩
  · subst tab
    exact Or.inl ⟨'t', rfl, by decide, fun _ => rfl, fun _ => rfl⟩
  · exact Or.inr (Or.inl ⟨_, _, rfl, hexValue4?_hexDigit _ control, control⟩)
  · exact Or.inr (Or.inr ⟨rfl, quote, backslash, control⟩)

theorem readEscape_unicode
    {character third fourth : Char}
    (digits : hexValue4? '0' '0' third fourth = some character.toNat)
    (control : character.toNat < 0x20)
    (rest : Text) :
    readEscape ('u' :: '0' :: '0' :: third :: fourth :: rest) = .ok (character, 5) := by
  have unicode : readUnicode ('0' :: '0' :: third :: fourth :: rest) = .ok (character, 4) := by
    have unled : ¬ (0xDC00 ≤ character.toNat ∧ character.toNat ≤ 0xDFFF) := by omega
    have untrailed : ¬ (0xD800 ≤ character.toNat ∧ character.toNat ≤ 0xDBFF) := by omega
    simp [readUnicode, readUnit, digits, unled, untrailed]
  simp [readEscape, unicode]

theorem skipEscape_unicode
    {third fourth : Char}
    {number : Nat}
    (digits : hexValue4? '0' '0' third fourth = some number)
    (rest : Text) :
    skipEscape ('u' :: '0' :: '0' :: third :: fourth :: rest) = .ok 5 := by
  have unlettered : "\"\\/bfnrt".toList.contains 'u' = false := by decide
  rw [skipEscape, unlettered]
  simp [readUnit, digits]

/-- A written character is read as itself. -/
theorem readFrom_escape
    (character : Char)
    (rest : Text) :
    readFrom 0 (escape character ++ rest) =
      (readFrom 0 rest).map fun (text, after) => (character :: text, after) := by
  rcases escape_cases character with
    ⟨letter, form, -, read, -⟩ | ⟨third, fourth, form, digits, control⟩ |
      ⟨form, notQuote, notBackslash, visible⟩
  · rw [form]
    simp [readFrom, read]
  · rw [form]
    simp [readFrom, readEscape_unicode digits control]
  · rw [form]
    simp [readFrom, notQuote, notBackslash, visible]

/-- A written character is passed over as one. -/
theorem skipFrom_escape
    (character : Char)
    (rest : Text) :
    skipFrom 0 (escape character ++ rest) = skipFrom 0 rest := by
  rcases escape_cases character with
    ⟨letter, form, -, -, skipped⟩ | ⟨third, fourth, form, digits, -⟩ |
      ⟨form, notQuote, notBackslash, visible⟩
  · rw [form]
    simp [skipFrom, skipped]
  · rw [form]
    simp [skipFrom, skipEscape_unicode digits]
  · rw [form]
    simp [skipFrom, notQuote, notBackslash, visible]

theorem body_cons
    (character : Char)
    (text : Text) :
    body (character :: text) = escape character ++ body text := rfl

/-- A quoted text is read up to its closing mark. -/
theorem read_body
    (text rest : Text) :
    read (body text ++ '\"' :: rest) = .ok (text, rest) := by
  unfold read
  induction text with
  | nil => rfl
  | cons character text hypothesis =>
    rw [body_cons, List.append_assoc, readFrom_escape, hypothesis]
    rfl

/-- A quoted text is passed over up to its closing mark. -/
theorem skip_body
    (text rest : Text) :
    skip (body text ++ '\"' :: rest) = .ok rest := by
  unfold skip
  induction text with
  | nil => rfl
  | cons character text hypothesis =>
    rw [body_cons, List.append_assoc, skipFrom_escape, hypothesis]

end TechniquePages.Json.Quoted
