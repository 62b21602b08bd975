import TechniquePages.Html.Reference
import Mathlib.Data.List.DropRight

/-!
# Decoding piece by piece

A reference is found by looking ahead from its ampersand, and it never reaches
past its text, nor past a character that no reference holds.  An ampersand and a
backslash are such characters.  So a text may be decoded in pieces, cut before
an ampersand or a backslash, even where the first piece ends in an unfinished
reference.

It follows that writing backslashes as references changes nothing for a reader
who decodes.
-/

namespace TechniquePages.Html

open Text (after? startsWith)

/-! ## The characters of names -/

/--
Every byte of a name is that of a letter, a digit or a semicolon, or near them, and
a name has no fewer bytes than it stands for characters.
-/
theorem byte_of_mem_all :
    ∀ entry ∈ NamedReference.all, entry.1 ≠ "" ∧ entry.2 ≠ [] ∧
      (∀ byte ∈ entry.1.toByteArray.data.toList, 48 ≤ byte ∧ byte ≠ 92 ∧ byte < 124) ∧
        entry.2.length ≤ entry.1.toByteArray.data.toList.length := by
  -- Checked by a run over the table, since deciding it would try all bytes.
  have checked : NamedReference.all.all (fun entry => entry.1 != "" && entry.2 != [] &&
      (entry.1.toByteArray.data.toList.all fun byte => 48 ≤ byte && byte != 92 && byte < 124) &&
        entry.2.length ≤ entry.1.toByteArray.data.toList.length) = true := by
    decide +kernel
  intro entry member
  have known := List.all_eq_true.mp checked entry member
  simp only [Bool.and_eq_true, bne_iff_ne, List.all_eq_true, decide_eq_true_eq] at known
  refine ⟨known.1.1.1, known.1.1.2, fun byte inside => ?_, known.2⟩
  have bounds := known.1.2 byte inside
  exact ⟨bounds.1.1, bounds.1.2, bounds.2⟩

/-- A character that no reference holds. -/
def IsStop (character : Char) : Prop :=
  character = '&' ∨ character = '\\'

instance (character : Char) : Decidable (IsStop character) :=
  inferInstanceAs (Decidable (_ ∨ _))

/-- The text is empty or begins with a character that no reference holds. -/
def Stops (text : Text) : Prop :=
  ∀ character ∈ text.head?, IsStop character

theorem stops_cons
    {character : Char}
    (stop : IsStop character)
    (rest : Text) :
    Stops (character :: rest) := by
  simpa [Stops] using stop

/-- The bytes of a text are those of its characters. -/
theorem toList_toByteArray (text : String) :
    text.toByteArray.data.toList = text.toList.flatMap String.utf8EncodeChar := by
  rw [← String.utf8Encode_toList, List.utf8Encode, List.toList_data_toByteArray]

theorem mem_toByteArray_of_mem_toList
    {text : String}
    {character : Char}
    (inside : character ∈ text.toList)
    {byte : UInt8}
    (ofCharacter : byte ∈ String.utf8EncodeChar character) :
    byte ∈ text.toByteArray.data.toList := by
  rw [toList_toByteArray, List.mem_flatMap]
  exact ⟨character, inside, ofCharacter⟩

theorem not_isStop_of_mem_name
    {entry : String × List Nat}
    (member : entry ∈ NamedReference.all)
    {character : Char}
    (inside : character ∈ entry.1.toList) :
    ¬ IsStop character := by
  have bytes := (byte_of_mem_all entry member).2.2.1
  rintro (rfl | rfl)
  · have low := (bytes 38 (mem_toByteArray_of_mem_toList inside (by decide))).1
    exact absurd low (by decide)
  · exact (bytes 92 (mem_toByteArray_of_mem_toList inside (by decide))).2.1 rfl

/-! ## Where a reference ends -/

theorem gatherDigits_length
    (value? : Char → Option Nat)
    (base number count : Nat)
    (text : Text) :
    (gatherDigits value? base number count text).2 ≤ count + text.length := by
  induction text generalizing number count with
  | nil => simp [gatherDigits]
  | cons character rest hypothesis =>
    rw [gatherDigits]
    split
    · rename_i value known
      have bound := hypothesis (number * base + value) (count + 1)
      rw [List.length_cons]
      omega
    · simp

theorem gatherDigits_append
    {value? : Char → Option Nat}
    {tail : Text}
    (ends : ∀ character ∈ tail.head?, value? character = none)
    (base number count : Nat)
    (text : Text) :
    gatherDigits value? base number count (text ++ tail) =
      gatherDigits value? base number count text := by
  induction text generalizing number count with
  | nil =>
    cases tail with
    | nil => rfl
    | cons character rest => simp [gatherDigits, ends character (by simp)]
  | cons character rest hypothesis =>
    rw [List.cons_append, gatherDigits, gatherDigits]
    split
    · exact hypothesis _ _
    · rfl

/-- One step of the search: a name that the text begins with wins if it is longer. -/
def longer
    (text : Text)
    (best : Option Reference)
    (entry : String × List Nat) : Option Reference :=
  if startsWith text entry.1.toList then
    match best with
    | some reference =>
      if reference.length < entry.1.toList.length then
        some ⟨entry.2.map Char.ofNat, entry.1.toList.length⟩
      else best
    | none => some ⟨entry.2.map Char.ofNat, entry.1.toList.length⟩
  else best

theorem longestName?_eq_foldl
    (names : List (String × List Nat))
    (text : Text) :
    longestName? names text = names.foldl (longer text) none := rfl

/-- A step keeps what was best, or takes a name that the text begins with. -/
theorem longer_cases
    (text : Text)
    (best : Option Reference)
    (entry : String × List Nat) :
    longer text best entry = best ∨
      startsWith text entry.1.toList = true ∧
        longer text best entry = some ⟨entry.2.map Char.ofNat, entry.1.toList.length⟩ := by
  unfold longer
  split
  · rename_i begins
    split
    · split
      · exact Or.inr ⟨begins, rfl⟩
      · exact Or.inl rfl
    · exact Or.inr ⟨begins, rfl⟩
  · exact Or.inl rfl

/-- The longest name is one of the names that the text begins with. -/
theorem longestName?_eq_some
    {names : List (String × List Nat)}
    {text : Text}
    {reference : Reference}
    (found : longestName? names text = some reference) :
    ∃ entry ∈ names, startsWith text entry.1.toList = true ∧
      reference = ⟨entry.2.map Char.ofNat, entry.1.toList.length⟩ := by
  have kept : ∀ (rest : List (String × List Nat)) (best : Option Reference),
      rest.foldl (longer text) best = some reference →
        best = some reference ∨ ∃ entry ∈ rest, startsWith text entry.1.toList = true ∧
          reference = ⟨entry.2.map Char.ofNat, entry.1.toList.length⟩ := by
    intro rest
    induction rest with
    | nil => exact fun best answer => Or.inl answer
    | cons entry rest hypothesis =>
      intro best answer
      rcases hypothesis _ answer with same | ⟨other, member, known⟩
      · rcases longer_cases text best entry with old | ⟨begins, new⟩
        · exact Or.inl (old ▸ same)
        · rw [new] at same
          exact Or.inr ⟨entry, by simp, begins, (Option.some.inj same).symm⟩
      · exact Or.inr ⟨other, by simp [member], known⟩
  rcases kept names none found with impossible | named
  · simp at impossible
  · exact named

/-- The search asks nothing of a text but which names it begins with. -/
theorem longestName?_congr
    {names : List (String × List Nat)}
    {text other : Text}
    (alike : ∀ entry ∈ names,
      startsWith text entry.1.toList = startsWith other entry.1.toList) :
    longestName? names text = longestName? names other := by
  rw [longestName?_eq_foldl, longestName?_eq_foldl]
  generalize none = best
  induction names generalizing best with
  | nil => rfl
  | cons entry rest hypothesis =>
    have step : longer text best entry = longer other best entry := by
      unfold longer
      rw [alike entry (by simp)]
    rw [List.foldl_cons, List.foldl_cons, step]
    exact hypothesis (fun named member => alike named (by simp [member])) _

theorem startsWith_iff
    (text beginning : Text) :
    startsWith text beginning = true ↔ beginning <+: text := by
  rw [startsWith, Option.isSome_iff_exists]
  constructor
  · rintro ⟨rest, known⟩
    exact ⟨rest, ((Text.after?_eq_some_iff _ _ _).mp known).symm⟩
  · rintro ⟨rest, whole⟩
    exact ⟨rest, (Text.after?_eq_some_iff _ _ _).mpr whole.symm⟩

/-- What follows a stop has no part in which names a text begins with. -/
theorem startsWith_append_of_stops
    {name tail : Text}
    (stopless : ∀ character ∈ name, ¬ IsStop character)
    (stops : Stops tail)
    (text : Text) :
    startsWith (text ++ tail) name = startsWith text name := by
  rw [Bool.eq_iff_iff, startsWith_iff, startsWith_iff]
  constructor
  · intro begins
    rcases List.prefix_or_prefix_of_prefix begins (List.prefix_append text tail) with
      inside | ⟨rest, rfl⟩
    · exact inside
    · rcases (List.prefix_append_right_inj text).mp begins with ⟨after, rfl⟩
      cases rest with
      | nil => simp
      | cons character more =>
        exact absurd (stops character (by simp)) (stopless character (by simp))
  · intro begins
    exact begins.trans (List.prefix_append text tail)

/-- A numeric reference stands for one character. -/
theorem numbered?_eq_some
    {value? : Char → Option Nat}
    {base lead : Nat}
    {text : Text}
    {reference : Reference}
    (found : numbered? value? base lead text = some reference) :
    reference.text.length = 1 ∧ lead ≤ reference.length ∧
      reference.length ≤ lead + text.length := by
  have bound := gatherDigits_length value? base 0 0 text
  unfold numbered? at found
  generalize gatherDigits value? base 0 0 text = gathered at found bound
  rcases gathered with ⟨number, count⟩
  simp only at found bound
  split at found
  · simp at found
  · have same := (Option.some.inj found).symm
    subst same
    refine ⟨rfl, ?_, ?_⟩
    · simp only
      omega
    simp only
    split
    · rename_i semicolon
      have longer : (text.drop count).length ≠ 0 := by
        intro empty
        rw [List.length_eq_zero_iff] at empty
        simp [empty] at semicolon
      rw [List.length_drop] at longer
      omega
    · omega

/-- A reference stands for some text, and it does not reach past its own. -/
theorem reference?_eq_some
    {text : Text}
    {reference : Reference}
    (found : reference? text = some reference) :
    reference.text ≠ [] ∧ reference.length ≤ text.length := by
  unfold reference? at found
  split at found
  · rcases numbered?_eq_some found with ⟨single, -, bound⟩
    refine ⟨List.ne_nil_of_length_eq_add_one single, ?_⟩
    simp only [List.length_cons]
    omega
  · rcases numbered?_eq_some found with ⟨single, -, bound⟩
    refine ⟨List.ne_nil_of_length_eq_add_one single, ?_⟩
    simp only [List.length_cons]
    omega
  · rcases numbered?_eq_some found with ⟨single, -, bound⟩
    refine ⟨List.ne_nil_of_length_eq_add_one single, ?_⟩
    simp only [List.length_cons]
    omega
  · rcases longestName?_eq_some found with ⟨entry, member, begins, rfl⟩
    refine ⟨by simpa using (byte_of_mem_all entry member).2.1, ?_⟩
    exact ((startsWith_iff _ _).mp begins).length_le

theorem numbered?_append
    {value? : Char → Option Nat}
    {tail : Text}
    (ends : ∀ character ∈ tail.head?, value? character = none ∧ character ≠ ';')
    (base lead : Nat)
    (text : Text) :
    numbered? value? base lead (text ++ tail) = numbered? value? base lead text := by
  have gathered := gatherDigits_append (fun character member => (ends character member).1)
    base 0 0 text
  have bound := gatherDigits_length value? base 0 0 text
  unfold numbered?
  rw [gathered]
  have semicolon : ((text ++ tail).drop (gatherDigits value? base 0 0 text).2).head? = some ';' ↔
      (text.drop (gatherDigits value? base 0 0 text).2).head? = some ';' := by
    rw [List.drop_append_of_le_length (by omega)]
    cases text.drop (gatherDigits value? base 0 0 text).2 with
    | cons character rest => simp
    | nil =>
      constructor
      · intro first
        exact absurd rfl (ends ';' first).2
      · simp
  simp only [semicolon]

theorem digit_of_isStop
    {character : Char}
    (stop : IsStop character) :
    Text.hexValue? character = none ∧ Text.decimalValue? character = none ∧
      character ≠ ';' ∧ character ≠ '#' ∧ character ≠ 'x' ∧ character ≠ 'X' := by
  rcases stop with rfl | rfl <;> decide

/-- Without a number sign a reference can only be named. -/
theorem reference?_of_head?_ne
    {text : Text}
    (unnumbered : text.head? ≠ some '#') :
    reference? text = longestName? NamedReference.all text := by
  unfold reference?
  split
  · simp at unnumbered
  · simp at unnumbered
  · simp at unnumbered
  · rfl

/-- Without the letter for base sixteen a numeric reference is decimal. -/
theorem reference?_decimal
    {digits : Text}
    (decimal : digits.head? ≠ some 'x' ∧ digits.head? ≠ some 'X') :
    reference? ('#' :: digits) = numbered? Text.decimalValue? 10 1 digits := by
  cases digits with
  | nil => rfl
  | cons first rest =>
    have others : first ≠ 'x' ∧ first ≠ 'X' := by simpa using decimal
    unfold reference?
    split
    · rename_i same
      exact absurd (List.cons.inj (List.cons.inj same).2).1 others.1
    · rename_i same
      exact absurd (List.cons.inj (List.cons.inj same).2).1 others.2
    · rename_i same
      rw [(List.cons.inj same).2]
    · rename_i noDigits
      exact (noDigits (first :: rest) rfl).elim

/-- A reference is found without looking past a stop. -/
theorem reference?_append_of_stops
    {tail : Text}
    (stops : Stops tail)
    (text : Text) :
    reference? (text ++ tail) = reference? text := by
  have named : longestName? NamedReference.all (text ++ tail) =
      longestName? NamedReference.all text :=
    longestName?_congr fun entry member =>
      startsWith_append_of_stops (fun _ inside => not_isStop_of_mem_name member inside) stops text
  have hexadecimal : ∀ digits, numbered? Text.hexValue? 16 2 (digits ++ tail) =
      numbered? Text.hexValue? 16 2 digits := fun digits =>
    numbered?_append (fun character first =>
      ⟨(digit_of_isStop (stops character first)).1,
        (digit_of_isStop (stops character first)).2.2.1⟩) 16 2 digits
  have decimal : ∀ digits, numbered? Text.decimalValue? 10 1 (digits ++ tail) =
      numbered? Text.decimalValue? 10 1 digits := fun digits =>
    numbered?_append (fun character first =>
      ⟨(digit_of_isStop (stops character first)).2.1,
        (digit_of_isStop (stops character first)).2.2.1⟩) 10 1 digits
  have notFirst : ∀ character, ¬ IsStop character → tail.head? ≠ some character :=
    fun character solid first => solid (stops character first)
  cases text with
  | nil =>
    calc reference? ([] ++ tail)
        = longestName? NamedReference.all ([] ++ tail) :=
          reference?_of_head?_ne (notFirst '#' (by decide))
      _ = longestName? NamedReference.all [] := named
      _ = reference? [] := (reference?_of_head?_ne (by simp)).symm
  | cons first rest =>
    by_cases numeric : first = '#'
    · subst numeric
      cases rest with
      | nil =>
        change reference? ('#' :: tail) = reference? ['#']
        calc reference? ('#' :: tail)
            = numbered? Text.decimalValue? 10 1 tail :=
              reference?_decimal ⟨notFirst 'x' (by decide), notFirst 'X' (by decide)⟩
          _ = numbered? Text.decimalValue? 10 1 [] := decimal []
          _ = reference? ['#'] := (reference?_decimal (by simp)).symm
      | cons second digits =>
        by_cases small : second = 'x'
        · subst small
          exact hexadecimal digits
        · by_cases capital : second = 'X'
          · subst capital
            exact hexadecimal digits
          · calc reference? ('#' :: second :: digits ++ tail)
                = numbered? Text.decimalValue? 10 1 (second :: digits ++ tail) :=
                  reference?_decimal (by simp [small, capital])
              _ = numbered? Text.decimalValue? 10 1 (second :: digits) := decimal _
              _ = reference? ('#' :: second :: digits) :=
                  (reference?_decimal (by simp [small, capital])).symm
    · calc reference? (first :: rest ++ tail)
          = longestName? NamedReference.all (first :: rest ++ tail) :=
            reference?_of_head?_ne (by simp [numeric])
        _ = longestName? NamedReference.all (first :: rest) := named
        _ = reference? (first :: rest) := (reference?_of_head?_ne (by simp [numeric])).symm

/-! ## Decoding -/

theorem decode_ampersand
    {rest : Text}
    {reference : Reference}
    (found : reference? rest = some reference) :
    decode ('&' :: rest) = reference.text ++ decode (rest.drop reference.length) := by
  rw [← decodeFrom_eq_decode_drop, decode]
  simp [decodeFrom, found]

theorem decode_bare_ampersand
    {rest : Text}
    (bare : reference? rest = none) :
    decode ('&' :: rest) = '&' :: decode rest := by
  simp [decode, decodeFrom, bare]

theorem decode_cons
    {character : Char}
    (plain : character ≠ '&')
    (rest : Text) :
    decode (character :: rest) = character :: decode rest := by
  simp [decode, decodeFrom, plain]

/-- A text may be decoded in two pieces, if the second begins with a stop. -/
theorem decode_append_of_stops
    {tail : Text}
    (stops : Stops tail)
    (text : Text) :
    decode (text ++ tail) = decode text ++ decode tail := by
  -- A reference is taken off as a whole, so the induction is on the length.
  induction size : text.length using Nat.strongRecOn generalizing text with
  | ind size hypothesis =>
    subst size
    cases text with
    | nil => rfl
    | cons character rest =>
      by_cases ampersand : character = '&'
      · subst ampersand
        cases found : reference? rest with
        | none =>
          have unresolved : reference? (rest ++ tail) = none := by
            rw [reference?_append_of_stops stops, found]
          rw [List.cons_append, decode_bare_ampersand unresolved,
            decode_bare_ampersand found, hypothesis rest.length (by simp) rest rfl]
          rfl
        | some reference =>
          have inside := (reference?_eq_some found).2
          have resolved : reference? (rest ++ tail) = some reference := by
            rw [reference?_append_of_stops stops, found]
          have shorter : (rest.drop reference.length).length < ('&' :: rest).length := by
            rw [List.length_drop, List.length_cons]
            omega
          rw [List.cons_append, decode_ampersand resolved, decode_ampersand found,
            List.drop_append_of_le_length inside, hypothesis _ shorter _ rfl, List.append_assoc]
      · rw [List.cons_append, decode_cons ampersand, decode_cons ampersand,
          hypothesis rest.length (by simp) rest rfl]
        rfl

/-- Decoding loses no text altogether. -/
theorem decode_ne_nil
    {text : Text}
    (nonempty : text ≠ []) :
    decode text ≠ [] := by
  cases text with
  | nil => exact absurd rfl nonempty
  | cons character rest =>
    by_cases ampersand : character = '&'
    · subst ampersand
      cases found : reference? rest with
      | none => simp [decode_bare_ampersand found]
      | some reference =>
        rw [decode_ampersand found]
        simp [(reference?_eq_some found).1]
    · simp [decode_cons ampersand]

/-- A backslash that is written as a reference is read as a backslash. -/
theorem decode_escaped_backslash (rest : Text) :
    decode ("&#92;".toList ++ rest) = '\\' :: decode rest := rfl

theorem escapeBackslashes_eq_self
    {text : Text}
    (absent : '\\' ∉ text) :
    escapeBackslashes text = text := by
  induction text with
  | nil => rfl
  | cons character rest hypothesis =>
    rw [List.mem_cons, not_or] at absent
    have same := hypothesis absent.2
    unfold escapeBackslashes at same ⊢
    rw [List.flatMap_cons, same, if_neg (Ne.symm absent.1)]
    rfl

/-- For a reader who decodes, writing backslashes as references changes nothing. -/
theorem decode_escapeBackslashes (text : Text) :
    decode (escapeBackslashes text) = decode text := by
  -- The text is cut before its first backslash, which begins with a stop in both forms.
  induction size : text.length using Nat.strongRecOn generalizing text with
  | ind size hypothesis =>
    subst size
    have split := List.takeWhile_append_dropWhile (p := (· != '\\')) (l := text)
    have plain : '\\' ∉ text.takeWhile (· != '\\') := by
      intro inside
      have different := List.mem_takeWhile_imp inside
      simp at different
    generalize text.takeWhile (· != '\\') = before at split plain
    cases after : text.dropWhile (· != '\\') with
    | nil =>
      have whole : text = before := by rw [← split, after, List.append_nil]
      rw [whole, escapeBackslashes_eq_self plain]
    | cons first rest =>
      have backslash : first = '\\' := by
        have known := List.head?_dropWhile_not (· != '\\') text
        simpa [after] using known
      subst backslash
      rw [after] at split
      have shorter : rest.length < text.length := by
        rw [← split, List.length_append, List.length_cons]
        omega
      have written : escapeBackslashes text =
          before ++ ("&#92;".toList ++ escapeBackslashes rest) := by
        rw [← split]
        unfold escapeBackslashes
        rw [List.flatMap_append]
        exact congrArg (· ++ _) (escapeBackslashes_eq_self plain)
      calc decode (escapeBackslashes text)
          = decode before ++ decode ("&#92;".toList ++ escapeBackslashes rest) := by
            rw [written]
            exact decode_append_of_stops (stops_cons (Or.inl rfl) _) before
        _ = decode before ++ '\\' :: decode rest := by
            rw [decode_escaped_backslash, hypothesis rest.length shorter rest rfl]
        _ = decode before ++ decode ('\\' :: rest) := by
            rw [decode_cons (by decide)]
        _ = decode text := by
            rw [← decode_append_of_stops (stops_cons (Or.inr rfl) _), split]

end TechniquePages.Html
