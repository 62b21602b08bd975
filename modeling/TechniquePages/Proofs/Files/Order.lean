import TechniquePages.Files.Path
import Mathlib.Data.List.Lex

/-!
# The order of paths

Texts are compared character by character and paths part by part, the first
difference deciding.  Both are lexicographic orders, so they inherit from the order
of characters, and from that of parts, that any two are related one way only.

Two paths with the same parts have no order: what says nothing in a path does not
count.
-/

namespace TechniquePages

theorem isStrictTotalOrder_lex
    {α : Type}
    (lower : α → α → Prop)
    [IsStrictTotalOrder α lower] :
    IsStrictTotalOrder (List α) (List.Lex lower) :=
  { isStrictWeakOrder_of_isOrderConnected with }

/-! ## Texts -/

/-- Characters by code point. -/
def Text.lowerCode (first second : Char) : Prop :=
  first.toNat < second.toNat

instance : IsStrictTotalOrder Char Text.lowerCode where
  irrefl character := Nat.lt_irrefl character.toNat
  trans _ _ _ := Nat.lt_trans
  trichotomous first second notLower notHigher := by
    have same : first.toNat = second.toNat :=
      Nat.le_antisymm (Nat.not_lt.mp notHigher) (Nat.not_lt.mp notLower)
    exact Char.toNat_inj.mp same

theorem Text.precedes_iff_lex (left right : Text) :
    Text.precedes left right = true ↔ List.Lex Text.lowerCode left right := by
  fun_induction Text.precedes left right with
  | case1 left => simp
  | case2 second right => simp
  | case3 first left right hypothesis => rw [hypothesis, List.lex_cons_iff]
  | case4 first left second right different =>
    rw [decide_eq_true_iff]
    constructor
    · exact fun lower => List.Lex.rel lower
    · intro earlier
      cases earlier with
      | cons rest => exact absurd rfl different
      | rel lower => exact lower

instance : IsStrictTotalOrder Text fun left right => Text.precedes left right = true := by
  simp only [Text.precedes_iff_lex]
  exact isStrictTotalOrder_lex Text.lowerCode

/-! ## Parts -/

namespace FilePath

/-- One part comes before another one. -/
def Part.lower (first second : Part) : Prop :=
  first.precedes second = true

instance : IsStrictTotalOrder Part Part.lower where
  irrefl part := by
    cases part with
    | name text => exact irrefl (r := fun left right => Text.precedes left right = true) text
    | _ => simp [Part.lower, Part.precedes, Part.rank]
  trans first second third := by
    cases first <;> cases second <;> cases third <;>
      simp only [Part.lower, Part.precedes, Part.rank] <;> try simp
    exact trans_of fun left right => Text.precedes left right = true
  trichotomous first second := by
    cases first <;> cases second <;>
      simp [Part.lower, Part.precedes, Part.rank]
    rename_i left right
    have total := Std.Trichotomous.trichotomous
      (r := fun left right => Text.precedes left right = true) left right
    simpa using total

theorem partsPrecede_iff_lex (left right : List Part) :
    partsPrecede left right = true ↔ List.Lex Part.lower left right := by
  fun_induction partsPrecede left right with
  | case1 left => simp
  | case2 second right => simp
  | case3 first left right hypothesis => rw [hypothesis, List.lex_cons_iff]
  | case4 first left second right different =>
    constructor
    · exact fun lower => List.Lex.rel lower
    · intro earlier
      cases earlier with
      | cons rest => exact absurd rfl different
      | rel lower => exact lower

instance : IsStrictTotalOrder (List Part) fun left right => partsPrecede left right = true := by
  simp only [partsPrecede_iff_lex]
  exact isStrictTotalOrder_lex Part.lower

/-! ## Paths -/

theorem precedes_trans
    {first second third : FilePath}
    (earlier : first.precedes second = true)
    (later : second.precedes third = true) :
    first.precedes third = true :=
  trans_of (fun left right => partsPrecede left right = true) earlier later

theorem not_precedes_of_precedes
    {first second : FilePath}
    (earlier : first.precedes second = true) :
    second.precedes first = false := by
  have none := asymm_of (fun left right => partsPrecede left right = true) earlier
  simpa [precedes] using none

/-- Of two paths with different parts, one comes before the other. -/
theorem precedes_or_precedes
    {first second : FilePath}
    (different : parts first ≠ parts second) :
    first.precedes second = true ∨ second.precedes first = true := by
  rcases trichotomous_of (fun left right => partsPrecede left right = true)
    (parts first) (parts second) with earlier | same | later
  · exact Or.inl earlier
  · exact absurd same different
  · exact Or.inr later

end FilePath

end TechniquePages
