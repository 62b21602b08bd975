import TechniquePages.Proofs.Page.WrittenSection
import TechniquePages.Proofs.Unicode.Lower

/-!
# Names of platforms

A token is spelled in small letters, digits, hyphens and colons.  A known token has
its display name in the table; any other one is shown with a capital letter, and
lower case gives it back.  What could go wrong is that the capital letter makes a
display name of the table, and this happens once: the token `azure` is shown as
`Azure`, which stands for `iaas:azure`.

So a printed list gives back its tokens but for this one, and two tokens have one
display name exactly when they are the same or are these two.
-/

namespace TechniquePages.Page.Platform

open Text (IsTrimmed IsLine)
open Unicode (isBlank lower lowerCharacter upperCharacter)

/-- The characters that tokens are spelled with. -/
def tokenCharacters : List Char :=
  "abcdefghijklmnopqrstuvwxyz0123456789-:".toList

/-- A spelled token. -/
structure IsToken (token : Text) : Prop where
  nonempty : token ≠ []
  spelled : token ⊆ tokenCharacters

instance : DecidablePred IsToken := fun token =>
  decidable_of_iff (token ≠ [] ∧ token.all tokenCharacters.contains = true) <| by
    constructor
    · rintro ⟨nonempty, all⟩
      exact ⟨nonempty, fun character member => by simpa using List.all_eq_true.mp all _ member⟩
    · rintro ⟨nonempty, spelled⟩
      exact ⟨nonempty, List.all_eq_true.mpr fun character member => by simpa using spelled member⟩

/-- The token that is shown by a display name of another one. -/
def overshadowed : Text := "azure".toList

/-- The token that a token's display name stands for. -/
def reread (token : Text) : Text :=
  if token = overshadowed then "iaas:azure".toList else token

/-! ## Characters -/

/-- A token's character is its own lower case, and that of its upper case. -/
theorem lower_of_mem_tokenCharacters
    {character : Char}
    (member : character ∈ tokenCharacters) :
    lowerCharacter character = [character] ∧
      (upperCharacter character).flatMap lowerCharacter = [character] := by
  have checked : (tokenCharacters.all fun character =>
      lowerCharacter character == [character] &&
        (upperCharacter character).flatMap lowerCharacter == [character]) = true := by
    decide +kernel
  simpa using List.all_eq_true.mp checked character member

/-- In upper case it is one character, neither a blank nor a comma nor a sigma. -/
theorem upper_of_mem_tokenCharacters
    {character : Char}
    (member : character ∈ tokenCharacters) :
    ∃ capital, upperCharacter character = [capital] ∧
      isBlank capital = false ∧ capital ≠ ',' ∧ capital ≠ '\u03a3' := by
  have checked : (tokenCharacters.all fun character =>
      (upperCharacter character).length == 1 &&
        (upperCharacter character).all fun capital =>
          !isBlank capital && capital != ',' && capital != '\u03a3') = true := by
    decide +kernel
  have own := List.all_eq_true.mp checked character member
  rw [Bool.and_eq_true, beq_iff_eq] at own
  rcases List.length_eq_one_iff.mp own.1 with ⟨capital, shape⟩
  have capitalOnly := own.2
  rw [shape] at capitalOnly
  exact ⟨capital, shape, by simpa [and_assoc] using capitalOnly⟩

theorem plain_of_mem_tokenCharacters
    {character : Char}
    (member : character ∈ tokenCharacters) :
    isBlank character = false ∧ character ≠ ',' ∧ character ≠ '\u03a3' := by
  have checked : (tokenCharacters.all fun character =>
      !isBlank character && character != ',' && character != '\u03a3') = true := by
    decide
  simpa [and_assoc] using List.all_eq_true.mp checked character member

/-! ## The table -/

/-- Every display name of the table stands for its own token. -/
theorem token_of_mem_known
    {entry : String × String}
    (member : entry ∈ known) :
    token entry.1.toList = entry.2.toList := by
  simp only [known, List.mem_cons, List.not_mem_nil, or_false] at member
  rcases member with rfl | rfl | rfl | rfl | rfl | rfl | rfl | rfl | rfl | rfl | rfl | rfl | rfl <;>
    decide

/--
A display name with a spelled rest is a token's with a capital letter, but for one
that is the overshadowed token's.
-/
theorem lower_of_mem_known
    {entry : String × String}
    (member : entry ∈ known)
    (spelled : entry.1.toList.tail ⊆ tokenCharacters) :
    lower entry.1.toList = entry.2.toList ∨ lower entry.1.toList = overshadowed := by
  have checked : (known.all fun entry =>
      !entry.1.toList.tail.all tokenCharacters.contains ||
        lower entry.1.toList == entry.2.toList || lower entry.1.toList == overshadowed) = true := by
    decide +kernel
  have own := List.all_eq_true.mp checked entry member
  have rest : entry.1.toList.tail.all tokenCharacters.contains = true :=
    List.all_eq_true.mpr fun character inside => by simpa using spelled inside
  simpa [rest] using own

/-- Every display name of the table can stand in a list. -/
theorem listed_of_mem_known
    {entry : String × String}
    (member : entry ∈ known) :
    IsLine entry.1.toList ∧ entry.1.toList ≠ [] ∧ ',' ∉ entry.1.toList := by
  simp only [known, List.mem_cons, List.not_mem_nil, or_false] at member
  rcases member with rfl | rfl | rfl | rfl | rfl | rfl | rfl | rfl | rfl | rfl | rfl | rfl | rfl <;>
    exact ⟨⟨by decide, by decide⟩, by decide, by decide⟩

/-! ## Display names -/

/-- A token is known, or shown with a capital letter that lower case takes back. -/
theorem IsToken.display_cases
    {token : Text}
    (spelled : IsToken token) :
    (∃ entry ∈ known, display token = entry.1.toList ∧ token = entry.2.toList) ∨
      ((∀ entry ∈ known, entry.2.toList ≠ token) ∧
        ∃ first capital rest, token = first :: rest ∧ upperCharacter first = [capital] ∧
          display token = capital :: rest ∧ lower (capital :: rest) = token) := by
  cases found : known.find? fun entry => entry.2.toList == token with
  | some entry =>
    have same : entry.2.toList = token := by simpa using List.find?_some found
    refine Or.inl ⟨entry, List.mem_of_find?_eq_some found, ?_, same.symm⟩
    unfold display
    rw [found]
  | none =>
    refine Or.inr ⟨fun entry member => ?_, ?_⟩
    · simpa using List.find?_eq_none.mp found entry member
    · cases token with
      | nil => exact absurd rfl spelled.nonempty
      | cons first rest =>
        have own : first ∈ tokenCharacters := spelled.spelled (List.mem_cons_self ..)
        have later : ∀ character ∈ rest, character ∈ tokenCharacters :=
          fun character member => spelled.spelled (List.mem_cons_of_mem _ member)
        rcases upper_of_mem_tokenCharacters own with ⟨capital, shape, -, -, plain⟩
        refine ⟨first, capital, rest, rfl, shape, ?_, ?_⟩
        · unfold display
          rw [found]
          change upperCharacter first ++ rest = capital :: rest
          rw [shape, List.singleton_append]
        · have unsigned : '\u03a3' ∉ capital :: rest := by
            rw [List.mem_cons, not_or]
            exact ⟨Ne.symm plain, fun member =>
              (plain_of_mem_tokenCharacters (later _ member)).2.2 rfl⟩
          have start : lowerCharacter capital = [first] := by
            simpa [shape] using (lower_of_mem_tokenCharacters own).2
          have kept : rest.flatMap lowerCharacter = rest := by
            rw [List.flatMap_congr fun character member =>
              (lower_of_mem_tokenCharacters (later character member)).1,
              List.flatMap_singleton']
          rw [Unicode.lower_eq_flatMap unsigned, List.flatMap_cons, start, kept,
            List.singleton_append]

/-- A display name stands for its token, or for the one that overshadows it. -/
theorem token_display
    {token : Text}
    (spelled : IsToken token) :
    Platform.token (display token) = reread token := by
  by_cases shadow : token = overshadowed
  · subst shadow
    decide
  · rw [reread, if_neg shadow]
    rcases spelled.display_cases with ⟨entry, member, shown, rfl⟩ |
      ⟨unknown, first, capital, rest, rfl, -, shown, back⟩
    · rw [shown, token_of_mem_known member]
    · rw [shown, Platform.token]
      cases found : known.find? fun entry => entry.1.toList == capital :: rest with
      | none => exact back
      | some entry =>
        -- The capital letter would have made a display name of the table.
        have same : entry.1.toList = capital :: rest := by simpa using List.find?_some found
        have member := List.mem_of_find?_eq_some found
        have tail : entry.1.toList.tail ⊆ tokenCharacters := by
          rw [same]
          exact fun character inside => spelled.spelled (List.mem_cons_of_mem _ inside)
        rcases lower_of_mem_known member tail with own | other
        · rw [same, back] at own
          exact absurd own.symm (unknown entry member)
        · rw [same, back] at other
          exact absurd other shadow

/-- A token and the one that its display name stands for are shown alike. -/
theorem display_reread (token : Text) : display (reread token) = display token := by
  rw [reread]
  split
  · rename_i shadow
    subst shadow
    decide
  · rfl

/-- The display name of a token can stand in a list. -/
theorem IsToken.listed_display
    {token : Text}
    (spelled : IsToken token) :
    IsLine (display token) ∧ display token ≠ [] ∧ ',' ∉ display token := by
  rcases spelled.display_cases with ⟨entry, member, shown, -⟩ |
    ⟨-, first, capital, rest, rfl, shape, shown, -⟩
  · exact shown ▸ listed_of_mem_known member
  · have plain : ∀ character ∈ display (first :: rest),
        isBlank character = false ∧ character ≠ ',' := by
      rw [shown]
      intro character member
      rcases List.mem_cons.mp member with rfl | later
      · rcases upper_of_mem_tokenCharacters (spelled.spelled (List.mem_cons_self ..)) with
          ⟨other, single, unblank, unequal, -⟩
        rw [shape] at single
        cases single
        exact ⟨unblank, unequal⟩
      · have own := plain_of_mem_tokenCharacters (spelled.spelled (List.mem_cons_of_mem _ later))
        exact ⟨own.1, own.2.1⟩
    have trimmed : IsTrimmed (display (first :: rest)) :=
      (Text.isTrimmed_iff _).mpr
        ⟨fun character found => (plain character (List.mem_of_head? found)).1,
          fun character found => (plain character (List.mem_of_getLast? found)).1⟩
    refine ⟨⟨trimmed, fun member => ?_⟩, ?_, fun member => (plain _ member).2 rfl⟩
    · exact absurd (plain _ member).1 (by decide)
    · rw [shown]
      exact List.cons_ne_nil _ _

/-- What a token's display name stands for can be listed and read back. -/
theorem isPlatform_reread
    {token : Text}
    (spelled : IsToken token) :
    IsPlatform (reread token) := by
  have listed := spelled.listed_display
  refine ⟨?_, ?_, ?_, ?_⟩
  · exact display_reread token ▸ listed.1
  · exact display_reread token ▸ listed.2.1
  · exact display_reread token ▸ listed.2.2
  · rw [display_reread, token_display spelled]

/-! ## Lists -/

theorem reread_eq_self_iff (token : Text) : reread token = token ↔ token ≠ overshadowed := by
  rw [reread]
  split
  · rename_i shadow
    subst shadow
    decide
  · simpa

/--
A printed list of tokens is read back with `iaas:azure` in the place of `azure`, so
it survives exactly when this token is not in it.  A display name stands for its own
token but for this one, and two tokens are shown alike exactly when their names
stand for the same token.
-/
theorem readList_writeList_spelled
    (tokens : List Text)
    (spelled : ∀ token ∈ tokens, IsToken token) :
    readList (writeList tokens) = tokens.map reread ∧
      (readList (writeList tokens) = tokens ↔ overshadowed ∉ tokens) ∧
      (∀ token ∈ tokens, Platform.token (display token) = token ↔ token ≠ overshadowed) ∧
      ∀ token ∈ tokens, ∀ other ∈ tokens,
        display token = display other ↔ reread token = reread other := by
  have platforms : ∀ token ∈ tokens.map reread, IsPlatform token := by
    intro token member
    rcases List.mem_map.mp member with ⟨source, inTokens, rfl⟩
    exact isPlatform_reread (spelled source inTokens)
  have same : writeList (tokens.map reread) = writeList tokens := by
    rw [writeList, writeList, List.map_map]
    exact congrArg _ (List.map_congr_left fun token _ => display_reread token)
  have back : readList (writeList tokens) = tokens.map reread := by
    have trimmed := readList_writeList platforms
    rwa [(isTrimmed_writeList platforms).trim_eq, same] at trimmed
  refine ⟨back, ?_, fun token member => ?_, fun token member other inTokens => ?_⟩
  · rw [back]
    constructor
    · intro kept member
      have own : reread overshadowed = overshadowed := by
        rw [← List.map_id tokens, List.map_map] at kept
        exact List.map_inj_left.mp kept _ member
      exact (reread_eq_self_iff _).mp own rfl
    · intro absent
      refine (List.map_congr_left fun token member => ?_).trans (List.map_id _)
      exact (reread_eq_self_iff token).mpr fun shadow => absent (shadow ▸ member)
  · rw [token_display (spelled token member), reread_eq_self_iff]
  · constructor
    · intro shown
      rw [← token_display (spelled token member), ← token_display (spelled other inTokens), shown]
    · intro stands
      rw [← display_reread token, ← display_reread other, stands]

/-- A list with a known token, an unknown one and the overshadowed one. -/
def cloudTokens : List Text :=
  ["office-365".toList, "network".toList, "azure".toList]

theorem readList_writeList_cloudTokens :
    (∀ token ∈ cloudTokens, IsToken token) ∧
      readList (writeList cloudTokens) =
        ["office-365".toList, "network".toList, "iaas:azure".toList] := by
  have spelled : ∀ token ∈ cloudTokens, IsToken token := by decide
  exact ⟨spelled, (readList_writeList_spelled cloudTokens spelled).1⟩

/-- Not every list of tokens survives: one of `azure` alone does not. -/
theorem not_forall_readList_writeList :
    ¬ ∀ tokens : List Text, (∀ token ∈ tokens, IsToken token) →
      readList (writeList tokens) = tokens := by
  intro survive
  have kept := survive [overshadowed] (by decide)
  exact absurd kept (by decide)

end TechniquePages.Page.Platform
