import TechniquePages.Corpus
import TechniquePages.Proofs.Files.Growth

/-!
# Names in a corpus

A page and its directory are named after a technique: a letter, four digits, and
three more after a dot for a part of a technique.  Such names are short and hold
nothing that a name of a file cannot hold, and so is the name of the record that a
page is converted to.

A record's name is never that of a page, since it ends in another letter.
-/

namespace TechniquePages

open Page (Marker.digits? Marker.techniqueDigits?)
open Unicode (isDecimalDigit)

/-! ## Numbers -/

theorem Page.Marker.eq_append_of_digits?
    {count : Nat}
    {text digits after : Text}
    (read : digits? count text = some (digits, after)) :
    text = digits ++ after ∧ digits.length = count ∧
      ∀ digit ∈ digits, isDecimalDigit digit = true := by
  induction count generalizing text digits with
  | zero =>
    cases read
    simp
  | succ count hypothesis =>
    cases text with
    | nil => cases read
    | cons character rest =>
      rw [digits?] at read
      split at read
      · rename_i digit
        cases more : digits? count rest with
        | none => simp [more] at read
        | some found =>
          simp only [more, Option.map_some, Option.some.injEq, Prod.mk.injEq] at read
          rcases read with ⟨rfl, rfl⟩
          rcases hypothesis more with ⟨split, length, others⟩
          refine ⟨by rw [split, List.cons_append], by simp [length], ?_⟩
          exact List.forall_mem_cons.mpr ⟨digit, others⟩
      · cases read

/-- A technique's number is short, and made of digits and a dot. -/
theorem Page.Marker.eq_append_of_techniqueDigits?
    {text digits after : Text}
    (read : techniqueDigits? text = some (digits, after)) :
    text = digits ++ after ∧ digits.length ≤ 8 ∧
      ∀ character ∈ digits, isDecimalDigit character = true ∨ character = '.' := by
  rw [techniqueDigits?] at read
  cases main : digits? 4 text with
  | none => simp [main] at read
  | some found =>
    rcases found with ⟨front, rest⟩
    rcases eq_append_of_digits? main with ⟨split, length, digital⟩
    have whole : (∀ character ∈ front, isDecimalDigit character = true ∨ character = '.') :=
      fun character member => Or.inl (digital character member)
    have plain : some (front, rest) = some (digits, after) → text = digits ++ after ∧
        digits.length ≤ 8 ∧
        ∀ character ∈ digits, isDecimalDigit character = true ∨ character = '.' := by
      rintro ⟨⟩
      exact ⟨split, by omega, whole⟩
    simp only [main, Option.bind_eq_bind, Option.bind_some] at read
    split at read
    · rename_i more
      cases part : digits? 3 more with
      | none => exact plain (by simpa [part] using read)
      | some last =>
        rcases last with ⟨back, remaining⟩
        rcases eq_append_of_digits? part with ⟨cut, size, others⟩
        simp only [part, Option.some.injEq, Prod.mk.injEq] at read
        rcases read with ⟨rfl, rfl⟩
        refine ⟨by simp [split, cut], by simp [length, size], ?_⟩
        intro character member
        rcases List.mem_append.mp member with inside | inside
        · exact whole character inside
        · rcases List.mem_cons.mp inside with dot | later
          · exact Or.inr dot
          · exact Or.inl (others character later)
    · exact plain read

/-! ## Names of files -/

theorem FileTree.byteLength_le (text : Text) : byteLength text ≤ 4 * text.length := by
  have general : ∀ length, text.foldl (fun length character => length + character.utf8Size) length ≤
      length + 4 * text.length := by
    induction text with
    | nil => simp
    | cons character rest hypothesis =>
      intro length
      have size := Char.utf8Size_le_four character
      have later := hypothesis (length + character.utf8Size)
      rw [List.foldl_cons, List.length_cons]
      omega
  simpa [byteLength] using general 0

/-- A letter, a number and a short extension make a name. -/
theorem isName_numbered
    {letter : Char}
    {digits extension : Text}
    (initial : letter = 'T' ∨ letter = 't')
    (short : digits.length ≤ 8)
    (number : ∀ character ∈ digits, isDecimalDigit character = true ∨ character = '.')
    (brief : extension.length ≤ 8)
    (plain : '/' ∉ extension ∧ '\x00' ∉ extension) :
    IsName (letter :: (digits ++ extension)) := by
  have absent : ∀ mark, mark ≠ 'T' → mark ≠ 't' → mark ≠ '.' → isDecimalDigit mark = false →
      mark ∉ extension → mark ∉ letter :: (digits ++ extension) := by
    intro mark upper lower dot other outside member
    rcases List.mem_cons.mp member with rfl | later
    · rcases initial with same | same
      · exact upper same
      · exact lower same
    · rcases List.mem_append.mp later with inside | inside
      · rcases number mark inside with digit | same
        · rw [other] at digit
          cases digit
        · exact dot same
      · exact outside inside
  have dotless : letter ≠ '.' := by
    rcases initial with rfl | rfl <;> decide
  refine ⟨by simp, absent '/' (by decide) (by decide) (by decide) (by decide) plain.1,
    absent '\x00' (by decide) (by decide) (by decide) (by decide) plain.2, ?_, ?_, ?_⟩
  · exact fun same => dotless (List.cons.inj same).1
  · exact fun same => dotless (List.cons.inj same).1
  · have bound := FileTree.byteLength_le (letter :: (digits ++ extension))
    rw [List.length_cons, List.length_append] at bound
    rw [FileTree.nameLimit]
    omega

namespace BatchJob

theorem isName_of_isDirectoryName
    {name : Text}
    (directory : isDirectoryName name = true) :
    IsName name := by
  unfold isDirectoryName at directory
  split at directory
  · rename_i rest
    cases number : Page.Marker.techniqueDigits? rest with
    | none => simp [number] at directory
    | some found =>
      rcases found with ⟨digits, after⟩
      rcases Page.Marker.eq_append_of_techniqueDigits? number with ⟨split, short, digital⟩
      have none : after = [] := by simpa [number] using directory
      rw [split, none]
      exact isName_numbered (Or.inl rfl) short digital (by simp) (by simp)
  · cases directory

/-- Only a dot is a dot in lower case. -/
theorem eq_dot_of_toLower
    {character : Char}
    (lower : character.toLower = '.') :
    character = '.' := by
  unfold Char.toLower at lower
  split at lower
  · rename_i upper
    have code := congrArg (fun other : Char => other.val.toNat) lower
    have least : 'A'.val.toNat ≤ character.val.toNat := upper.1
    have most : character.val.toNat ≤ 'Z'.val.toNat := upper.2
    simp only [UInt32.toNat_add, UInt32.reduceToNat, Char.reduceVal, UInt32.reduceSub]
      at code least most
    omega
  · exact lower

/-- A page's name is a letter, a number, and the extension in any case. -/
theorem exists_of_isPageName
    {name : Text}
    (page : isPageName name = true) :
    ∃ letter digits m d, name = letter :: (digits ++ ['.', m, d]) ∧
      (letter = 'T' ∨ letter = 't') ∧ digits.length ≤ 8 ∧
      (∀ character ∈ digits, isDecimalDigit character = true ∨ character = '.') ∧
      m.toLower = 'm' ∧ d.toLower = 'd' := by
  unfold isPageName at page
  split at page
  · rename_i letter rest
    rw [Bool.and_eq_true] at page
    rcases page with ⟨initial, page⟩
    cases number : Page.Marker.techniqueDigits? rest with
    | none => simp [number] at page
    | some found =>
      rcases found with ⟨digits, after⟩
      rcases Page.Marker.eq_append_of_techniqueDigits? number with ⟨split, short, digital⟩
      have lower : after.map Char.toLower = ['.', 'm', 'd'] := by simpa [number] using page
      rcases List.map_eq_cons_iff.mp lower with ⟨dot, more, rfl, isDot, lower⟩
      rcases List.map_eq_cons_iff.mp lower with ⟨m, more, rfl, isM, lower⟩
      rcases List.map_eq_cons_iff.mp lower with ⟨d, more, rfl, isD, lower⟩
      rw [List.map_eq_nil_iff] at lower
      rw [split, eq_dot_of_toLower isDot, lower]
      exact ⟨letter, digits, m, d, rfl, by simpa using initial, short, digital, isM, isD⟩
  · cases page

/-- The name of the record that a page is converted to. -/
def recordName (name : Text) : Text :=
  (FilePath.cutExtension name).1 ++ ".json".toList

theorem exists_recordName
    {name : Text}
    (page : isPageName name = true) :
    ∃ letter digits, recordName name = letter :: (digits ++ ".json".toList) ∧
      (letter = 'T' ∨ letter = 't') ∧ digits.length ≤ 8 ∧
      ∀ character ∈ digits, isDecimalDigit character = true ∨ character = '.' := by
  rcases exists_of_isPageName page with
    ⟨letter, digits, m, d, rfl, initial, short, digital, isM, isD⟩
  refine ⟨letter, digits, ?_, initial, short, digital⟩
  have notDot : ∀ {character expected : Char}, character.toLower = expected → expected ≠ '.' →
      (character != '.') = true := by
    rintro character expected rfl other
    rw [bne_iff_ne]
    rintro rfl
    exact other rfl
  have cut : FilePath.cutExtension (letter :: (digits ++ ['.', m, d])) =
      (letter :: digits, some [m, d]) := by
    have reversed : (letter :: (digits ++ ['.', m, d])).reverse =
        d :: m :: '.' :: (letter :: digits).reverse := by simp
    rw [FilePath.cutExtension, reversed]
    simp only [List.dropWhile_cons, List.takeWhile_cons, notDot isM (by decide),
      notDot isD (by decide), if_true]
    cases rest : (letter :: digits).reverse with
    | nil => simp at rest
    | cons last more => simp [← rest]
  rw [recordName, cut, List.cons_append]

theorem isName_recordName
    {name : Text}
    (page : isPageName name = true) :
    IsName (recordName name) := by
  rcases exists_recordName page with ⟨letter, digits, shape, initial, short, digital⟩
  rw [shape]
  exact isName_numbered initial short digital (by decide) (by decide)

/-- A record is no page. -/
theorem isPageName_recordName
    {name : Text}
    (page : isPageName name = true) :
    isPageName (recordName name) = false := by
  rcases exists_recordName page with ⟨letter, digits, shape, -, -, -⟩
  by_contra other
  rcases exists_of_isPageName (by simpa using other) with
    ⟨first, number, m, d, same, -, -, -, -, isD⟩
  rw [shape] at same
  have last := congrArg List.getLast? same
  simp [List.getLast?_cons, List.getLast?_append] at last
  rw [← last] at isD
  exact absurd isD (by decide)

end BatchJob

end TechniquePages
