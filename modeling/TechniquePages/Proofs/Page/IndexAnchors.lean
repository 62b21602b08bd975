import TechniquePages.Page.Writing
import TechniquePages.Proofs.Page.WrittenLines
import TechniquePages.Proofs.Unicode.Lower
import Mathlib.Data.List.Nodup

/-!
# Anchors of the index

The index of a page has one entry for each test, which links to the test by the
anchor of its title.  A title begins with the number of the test, and its anchor
keeps the digits of that number with a hyphen after them, whatever the name of
the test becomes in lower case.  So the number is read off the anchor, and no two
entries of an index share one.
-/

namespace TechniquePages.Page

/-! ## Titles and entries -/

/-- The titles of tests that are counted from a number. -/
def testTitles (number : Nat) : List AtomicTest → List Text
  | [] => []
  | test :: rest => testTitle number test.name :: testTitles (number + 1) rest

/-- A line of the index: a title, and the link to its anchor. -/
def indexEntry (title : Text) : Text :=
  "- [".toList ++ title ++ "](#".toList ++ anchor title ++ ")".toList

/-- The index is the entries of the titles. -/
theorem writeIndex_eq_map
    (number : Nat)
    (tests : List AtomicTest) :
    writeIndex number tests = (testTitles number tests).map indexEntry := by
  induction tests generalizing number with
  | nil => rfl
  | cons test rest hypothesis =>
    rw [writeIndex, hypothesis]
    rfl

/-! ## The number in an anchor -/

/-- What a text in lower case leaves on an anchor. -/
def anchorPart (text : Text) : Text :=
  (text.map fun character => if character = ' ' then '-' else character).filter
    fun character => !anchorPunctuation.contains character

theorem anchor_eq_anchorPart (title : Text) :
    anchor title = anchorPart (Unicode.lower title) := rfl

theorem anchorPart_append (front back : Text) :
    anchorPart (front ++ back) = anchorPart front ++ anchorPart back := by
  simp only [anchorPart, List.map_append, List.filter_append]

/-- Neither a space nor punctuation is left. -/
theorem not_mem_anchorPart
    {character : Char}
    (dropped : character = ' ' ∨ character ∈ anchorPunctuation)
    (text : Text) :
    character ∉ anchorPart text := by
  intro member
  rcases List.mem_filter.mp member with ⟨made, kept⟩
  rcases dropped with rfl | punctuation
  · rcases List.mem_map.mp made with ⟨source, -, same⟩
    split at same
    · exact absurd same (by decide)
    · contradiction
  · simp [punctuation] at kept

/-- Decimal digits have no case, and all of them are kept. -/
theorem anchorPart_digit
    {character : Char}
    (digit : character.isDigit = true) :
    anchorPart (Unicode.lowerCharacter character) = [character] := by
  have caseless : character.toNat ≤ 0x40 := by
    simp only [Char.isDigit, Bool.and_eq_true, decide_eq_true_eq, UInt32.le_iff_toNat_le,
      ge_iff_le, Char.toNat_val, Char.reduceToNat] at digit
    omega
  have others : ∀ other ∈ ' ' :: anchorPunctuation, other ≠ character := by
    have undigit : (' ' :: anchorPunctuation).all (fun other => !other.isDigit) = true := by
      decide
    rintro other member rfl
    have known := List.all_eq_true.mp undigit other member
    simp [digit] at known
  rcases List.forall_mem_cons.mp others with ⟨space, punctuation⟩
  have kept : character ∉ anchorPunctuation := fun member => punctuation character member rfl
  rw [Unicode.lowerCharacter_eq_self caseless]
  simp [anchorPart, Ne.symm space, kept]

theorem anchorPart_ofNat (number : Nat) :
    anchorPart ((Text.ofNat number).flatMap Unicode.lowerCharacter) = Text.ofNat number := by
  have digits : ∀ character ∈ Text.ofNat number, character.isDigit = true := fun _ member =>
    Nat.isDigit_of_mem_toDigits (by decide) (by decide) member
  generalize Text.ofNat number = text at digits ⊢
  induction text with
  | nil => rfl
  | cons character rest hypothesis =>
    rcases List.forall_mem_cons.mp digits with ⟨own, others⟩
    rw [List.flatMap_cons, anchorPart_append, anchorPart_digit own, hypothesis others,
      List.singleton_append]

/-- Lower case without a capital sigma is converted before what follows it. -/
theorem exists_anchorPart_lowerAfter
    {front : Text}
    (plain : '\u03a3' ∉ front)
    (before back : Text) :
    ∃ above, anchorPart (Unicode.lowerAfter before (front ++ back)) =
      anchorPart (front.flatMap Unicode.lowerCharacter) ++
        anchorPart (Unicode.lowerAfter above back) := by
  refine ⟨front.reverse ++ before, ?_⟩
  rw [Unicode.lowerAfter_append plain, anchorPart_append]

/-- An anchor begins with the number of its test, whatever the test is called. -/
theorem exists_anchor_testTitle
    (number : Nat)
    (name : Text) :
    ∃ tail, anchor (testTitle number name) =
      "atomic-test-".toList ++ (Text.ofNat number ++ '-' :: tail) := by
  have plainWords : '\u03a3' ∉ "Atomic Test #".toList := by decide
  have plainDash : '\u03a3' ∉ " - ".toList := by decide
  have plainDigits : '\u03a3' ∉ Text.ofNat number := by
    intro member
    have digit : ('\u03a3').isDigit = true :=
      Nat.isDigit_of_mem_toDigits (by decide) (by decide) member
    exact absurd digit (by decide)
  have words : anchorPart ("Atomic Test #".toList.flatMap Unicode.lowerCharacter) =
      "atomic-test-".toList := by decide +kernel
  have dash : anchorPart (" - ".toList.flatMap Unicode.lowerCharacter) = '-' :: "--".toList := by
    decide +kernel
  rcases exists_anchorPart_lowerAfter plainWords [] (Text.ofNat number ++ (" - ".toList ++ name))
    with ⟨aboveDigits, first⟩
  rcases exists_anchorPart_lowerAfter plainDigits aboveDigits (" - ".toList ++ name)
    with ⟨aboveDash, second⟩
  rcases exists_anchorPart_lowerAfter plainDash aboveDash name with ⟨aboveName, third⟩
  refine ⟨"--".toList ++ anchorPart (Unicode.lowerAfter aboveName name), ?_⟩
  have shape : anchor (testTitle number name) = anchorPart (Unicode.lowerAfter []
      ("Atomic Test #".toList ++ (Text.ofNat number ++ (" - ".toList ++ name)))) := by
    rw [anchor_eq_anchorPart, Unicode.lower, testTitle_eq, List.append_assoc]
  rw [shape, first, words, second, anchorPart_ofNat, third, dash, List.cons_append]

/-- The number after the words that every anchor of a test begins with. -/
def anchorNumber (anchor : Text) : Nat :=
  Nat.ofDigitChars 10 ((anchor.drop "atomic-test-".length).takeWhile Char.isDigit) 0

/-- The number of a test is read off its anchor. -/
theorem anchorNumber_anchor
    (number : Nat)
    (name : Text) :
    anchorNumber (anchor (testTitle number name)) = number := by
  rcases exists_anchor_testTitle number name with ⟨tail, shape⟩
  have digits : ∀ character ∈ Text.ofNat number, character.isDigit = true := fun _ member =>
    Nat.isDigit_of_mem_toDigits (by decide) (by decide) member
  have ends : ('-' :: tail).takeWhile Char.isDigit = [] := rfl
  have run : (anchor (testTitle number name)).drop "atomic-test-".length =
      Text.ofNat number ++ '-' :: tail := by
    rw [shape]
    exact List.drop_left
  rw [anchorNumber, run, List.takeWhile_append_of_pos digits, ends, List.append_nil]
  exact Nat.ofDigitChars_toDigits (by decide) (by decide)

/-! ## The index -/

/-- The anchors of an index hold the numbers of its tests in order. -/
theorem map_anchorNumber_testTitles
    (number : Nat)
    (tests : List AtomicTest) :
    ((testTitles number tests).map anchor).map anchorNumber =
      List.range' number tests.length := by
  induction tests generalizing number with
  | nil => rfl
  | cons test rest hypothesis =>
    rw [testTitles, List.map_cons, List.map_cons, anchorNumber_anchor, hypothesis,
      List.length_cons, List.range'_succ]

/--
The anchors of an index are unambiguous.  The index of a page is one entry for each of
its tests, linked by the anchor of the test's title.  No two of these anchors are equal,
and no anchor at all holds a space or punctuation.
-/
theorem index_anchors_differ (technique : Technique) :
    writeIndex 1 technique.tests = (testTitles 1 technique.tests).map indexEntry ∧
      (testTitles 1 technique.tests).length = technique.tests.length ∧
      ((testTitles 1 technique.tests).map anchor).Nodup ∧
      ∀ (title : Text) (character : Char),
        character = ' ' ∨ character ∈ anchorPunctuation → character ∉ anchor title := by
  have numbers := map_anchorNumber_testTitles 1 technique.tests
  refine ⟨writeIndex_eq_map 1 technique.tests, ?_, ?_, ?_⟩
  · simpa using congrArg List.length numbers
  · refine List.Nodup.of_map anchorNumber ?_
    rw [numbers]
    exact List.nodup_range'
  · intro title character dropped
    exact not_mem_anchorPart dropped (Unicode.lower title)

end TechniquePages.Page
