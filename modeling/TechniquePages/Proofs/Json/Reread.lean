import TechniquePages.Json.Reading
import TechniquePages.Proofs.Json.Layout

/-!
# Values are read back

Reading follows the writer: a value, its items and its members are read by
recursion on the value, each with more fuel than twice the characters it takes.
What follows a value is left, because no value of a record ends where its text
could go on.
-/

namespace TechniquePages.Json

mutual

/-- The tree of a value as it is read from its own text. -/
def source : Json → Source
  | .null => .null
  | .boolean value => .boolean value
  | .number value => .number (.ok value) (.ok ())
  | .string value => .text (.ok value) (.ok ())
  | .array items => .list (sourceItems items)
  | .object members => .object (sourceMembers members)

/-- The tree of items. -/
def sourceItems : List Json → Items
  | [] => .stop .closed
  | item :: rest => .item (source item) (sourceItems rest)

/-- The tree of members. -/
def sourceMembers : List (Text × Json) → Members
  | [] => .stop .closed
  | (key, value) :: rest => .member (.ok key) (.ok ()) (source value) (sourceMembers rest)

end

mutual

/-- A value without numbers. -/
def IsNumberFree : Json → Prop
  | .null => True
  | .boolean _ => True
  | .number _ => False
  | .string _ => True
  | .array items => AreNumberFree items
  | .object members => HaveNumberFree members

/-- Items without numbers. -/
def AreNumberFree : List Json → Prop
  | [] => True
  | item :: rest => IsNumberFree item ∧ AreNumberFree rest

/-- Members whose values are without numbers. -/
def HaveNumberFree : List (Text × Json) → Prop
  | [] => True
  | (_, value) :: rest => IsNumberFree value ∧ HaveNumberFree rest

end

/-! ## Blanks -/

theorem dropSpace_append
    {blank : Text}
    (spaces : IsBlank blank)
    (rest : Text) :
    dropSpace (blank ++ rest) = dropSpace rest :=
  List.dropWhile_append_of_pos spaces

theorem dropSpace_cons
    {character : Char}
    (visible : isSpace character = false)
    (rest : Text) :
    dropSpace (character :: rest) = character :: rest := by
  simp [dropSpace, visible]

/-- A written value begins with a character that ends nothing and is no blank. -/
theorem exists_writeAt_eq_cons
    (layout : Layout)
    (level : Nat)
    {value : Json}
    (numberFree : IsNumberFree value) :
    ∃ first rest, writeAt layout level value = first :: rest ∧ isSpace first = false ∧
      first ≠ ']' := by
  cases value with
  | null => exact ⟨'n', "ull".toList, rfl, by decide, by decide⟩
  | boolean value =>
    cases value with
    | true => exact ⟨'t', "rue".toList, rfl, by decide, by decide⟩
    | false => exact ⟨'f', "alse".toList, rfl, by decide, by decide⟩
  | number value => exact absurd numberFree (by simp [IsNumberFree])
  | string value => exact ⟨'\"', _, rfl, by decide, by decide⟩
  | array items => exact ⟨'[', _, rfl, by decide, by decide⟩
  | object members => exact ⟨'\x7b', _, rfl, by decide, by decide⟩

/-! ## Reading -/

theorem readWord_append
    (value : Source)
    (word rest : Text) :
    readWord value word (word ++ rest) = (value, rest) := by
  induction word with
  | nil => rfl
  | cons character word hypothesis => simpa [readWord] using hypothesis

theorem readText_write (text rest : Text) :
    readText (Quoted.body text ++ '\"' :: rest) = (.text (.ok text) (.ok ()), rest) := by
  rw [readText, Quoted.read_body, Quoted.skip_body]
  rfl

theorem readValue_list
    {text rest : Text}
    (start : dropSpace text = '[' :: rest)
    (fuel : Nat) :
    readValue (fuel + 1) text =
      (.list (readItems fuel true rest).1, (readItems fuel true rest).2) := by
  rw [readValue, start]
  rfl

theorem readValue_object
    {text rest : Text}
    (start : dropSpace text = '\x7b' :: rest)
    (fuel : Nat) :
    readValue (fuel + 1) text =
      (.object (readMembers fuel true rest).1, (readMembers fuel true rest).2) := by
  rw [readValue, start]
  rfl

/-- The end of a list is read as such. -/
theorem readItems_closing
    {gap : Text}
    (spaces : IsBlank gap)
    (fuel : Nat)
    (atStart : Bool)
    (rest : Text) :
    readItems (fuel + 1) atStart (gap ++ ']' :: rest) = (.stop .closed, rest) := by
  rw [readItems, dropSpace_append spaces, dropSpace_cons (by decide)]
  rfl

/-- The end of an object is read as such. -/
theorem readMembers_closing
    {gap : Text}
    (spaces : IsBlank gap)
    (fuel : Nat)
    (atStart : Bool)
    (rest : Text) :
    readMembers (fuel + 1) atStart (gap ++ '\x7d' :: rest) = (.stop .closed, rest) := by
  rw [readMembers, dropSpace_append spaces, dropSpace_cons (by decide)]
  rfl

/-- Before an item stand blanks, and a comma unless it is the first one. -/
theorem readItems_item
    {gap : Text}
    (spaces : IsBlank gap)
    (fuel : Nat)
    (atStart : Bool)
    {first : Char}
    (visible : isSpace first = false)
    (unclosed : first ≠ ']')
    (rest : Text) :
    readItems (fuel + 1) atStart (comma atStart ++ (gap ++ first :: rest)) =
      let (head, after) := readValue fuel (first :: rest)
      let (tail, last) := readItems fuel false after
      (.item head tail, last) := by
  cases atStart with
  | true =>
    rw [readItems, comma, if_pos rfl, List.nil_append, dropSpace_append spaces,
      dropSpace_cons visible]
    simp [unclosed]
  | false =>
    have following : dropSpace (gap ++ first :: rest) = first :: rest := by
      rw [dropSpace_append spaces, dropSpace_cons visible]
    have visibleComma : isSpace ',' = false := by decide
    rw [readItems, comma, if_neg (by simp), List.singleton_append, dropSpace_cons visibleComma]
    simp [following, unclosed]

/-- Before a member stand blanks, and a comma unless it is the first one. -/
theorem readMembers_member
    {gap : Text}
    (spaces : IsBlank gap)
    (fuel : Nat)
    (atStart : Bool)
    (key rest : Text) :
    readMembers (fuel + 1) atStart (comma atStart ++ (gap ++ (Quoted.write key ++ ':' :: rest))) =
      let (value, after) := readValue fuel rest
      let (tail, last) := readMembers fuel false after
      (.member (.ok key) (.ok ()) value tail, last) := by
  have quoted : Quoted.write key ++ ':' :: rest =
      '\"' :: (Quoted.body key ++ '\"' :: ':' :: rest) := by
    simp [Quoted.write]
  have following : dropSpace (gap ++ '\"' :: (Quoted.body key ++ '\"' :: ':' :: rest)) =
      '\"' :: (Quoted.body key ++ '\"' :: ':' :: rest) := by
    rw [dropSpace_append spaces, dropSpace_cons (by decide)]
  have colon : dropSpace (':' :: rest) = ':' :: rest := dropSpace_cons (by decide) rest
  rw [quoted]
  cases atStart with
  | true =>
    rw [readMembers, comma, if_pos rfl, List.nil_append, following]
    simp [Quoted.read_body, Quoted.skip_body, colon, Except.map]
  | false =>
    have visibleComma : isSpace ',' = false := by decide
    rw [readMembers, comma, if_neg (by simp), List.singleton_append, dropSpace_cons visibleComma]
    simp [following, Quoted.read_body, Quoted.skip_body, colon, Except.map]

theorem dropSpace_writeAt
    {before : Text}
    (spaces : IsBlank before)
    (layout : Layout)
    (level : Nat)
    {value : Json}
    (numberFree : IsNumberFree value)
    (rest : Text) :
    dropSpace (before ++ (writeAt layout level value ++ rest)) =
      writeAt layout level value ++ rest := by
  rcases exists_writeAt_eq_cons layout level numberFree with ⟨first, others, shape, visible, -⟩
  rw [dropSpace_append spaces, shape, List.cons_append, dropSpace_cons visible]

theorem isBlank_closing
    {layout : Layout}
    (blank : layout.IsBlank)
    (level : Nat)
    (empty : Bool) :
    IsBlank (if empty then [] else layout.gap level) := by
  cases empty with
  | true => simp [IsBlank]
  | false => exact blank.gap level

mutual

/-- A written value is read back as its own tree, and what follows it is left. -/
theorem readValue_writeAt
    {layout : Layout}
    (blank : layout.IsBlank) :
    (value : Json) → IsNumberFree value → ∀ (level fuel : Nat) (before rest : Text),
      IsBlank before → 2 * (writeAt layout level value).length ≤ fuel →
        readValue fuel (before ++ (writeAt layout level value ++ rest)) = (source value, rest)
  | .null, numberFree, level, fuel, before, rest, spaces, enough => by
    have start := dropSpace_writeAt spaces layout level numberFree rest
    have word := readWord_append .null "ull".toList rest
    cases fuel with
    | zero => simp [writeAt] at enough
    | succ fuel =>
      rw [readValue, start]
      exact word
  | .boolean true, numberFree, level, fuel, before, rest, spaces, enough => by
    have start := dropSpace_writeAt spaces layout level numberFree rest
    have word := readWord_append (.boolean true) "rue".toList rest
    cases fuel with
    | zero => simp [writeAt, booleanText] at enough
    | succ fuel =>
      rw [readValue, start]
      exact word
  | .boolean false, numberFree, level, fuel, before, rest, spaces, enough => by
    have start := dropSpace_writeAt spaces layout level numberFree rest
    have word := readWord_append (.boolean false) "alse".toList rest
    cases fuel with
    | zero => simp [writeAt, booleanText] at enough
    | succ fuel =>
      rw [readValue, start]
      exact word
  | .number _, numberFree, _, _, _, _, _, _ => absurd numberFree (by simp [IsNumberFree])
  | .string value, numberFree, level, fuel, before, rest, spaces, enough => by
    have start := dropSpace_writeAt spaces layout level numberFree rest
    have read := readText_write value rest
    cases fuel with
    | zero => simp [writeAt, Quoted.write] at enough
    | succ fuel =>
      have shape : writeAt layout level (.string value) ++ rest =
          '\"' :: (Quoted.body value ++ '\"' :: rest) := by
        simp [writeAt, Quoted.write]
      rw [readValue, start, shape]
      exact read
  | .array items, numberFree, level, fuel, before, rest, spaces, enough => by
    have start := dropSpace_writeAt spaces layout level numberFree rest
    have closing := isBlank_closing blank level items.isEmpty
    cases fuel with
    | zero => simp [writeAt] at enough
    | succ fuel =>
      have shorter : 2 * (writeItems layout (level + 1) true items).length < fuel := by
        simp only [writeAt, List.length_cons, List.length_append, List.length_nil] at enough
        omega
      have inside := readItems_writeItems blank items numberFree (level + 1) fuel true _ rest
        closing shorter
      have shape : writeAt layout level (.array items) ++ rest =
          '[' :: (writeItems layout (level + 1) true items ++
            ((if items.isEmpty then [] else layout.gap level) ++ ']' :: rest)) := by
        simp [writeAt]
      rw [readValue_list (start.trans shape), inside]
      rfl
  | .object members, numberFree, level, fuel, before, rest, spaces, enough => by
    have start := dropSpace_writeAt spaces layout level numberFree rest
    have closing := isBlank_closing blank level members.isEmpty
    cases fuel with
    | zero => simp [writeAt] at enough
    | succ fuel =>
      have shorter : 2 * (writeMembers layout (level + 1) true members).length < fuel := by
        simp only [writeAt, List.length_cons, List.length_append, List.length_nil] at enough
        omega
      have inside := readMembers_writeMembers blank members numberFree (level + 1) fuel true _ rest
        closing shorter
      have shape : writeAt layout level (.object members) ++ rest =
          '\x7b' :: (writeMembers layout (level + 1) true members ++
            ((if members.isEmpty then [] else layout.gap level) ++ '\x7d' :: rest)) := by
        simp [writeAt]
      rw [readValue_object (start.trans shape), inside]
      rfl

/-- Written items are read back up to the closing bracket. -/
theorem readItems_writeItems
    {layout : Layout}
    (blank : layout.IsBlank) :
    (items : List Json) → AreNumberFree items →
      ∀ (level fuel : Nat) (atStart : Bool) (gap rest : Text), IsBlank gap →
        2 * (writeItems layout level atStart items).length < fuel →
          readItems fuel atStart (writeItems layout level atStart items ++ (gap ++ ']' :: rest)) =
            (sourceItems items, rest)
  | [], _, _, fuel, atStart, gap, rest, spaces, enough => by
    cases fuel with
    | zero => simp at enough
    | succ fuel => exact readItems_closing spaces fuel atStart rest
  | item :: more, numberFree, level, fuel, atStart, gap, rest, spaces, enough => by
    rcases exists_writeAt_eq_cons layout level numberFree.1 with
      ⟨first, others, shape, visible, unclosed⟩
    cases fuel with
    | zero => simp at enough
    | succ fuel =>
      have long : 0 < (writeAt layout level item).length := by simp [shape]
      simp only [writeItems, List.length_append] at enough
      have head := readValue_writeAt blank item numberFree.1 level fuel []
        (writeItems layout level false more ++ (gap ++ ']' :: rest)) (by simp [IsBlank]) (by omega)
      have tail := readItems_writeItems blank more numberFree.2 level fuel false gap rest spaces
        (by omega)
      have split : writeItems layout level atStart (item :: more) ++ (gap ++ ']' :: rest) =
          comma atStart ++ (layout.gap level ++ first :: (others ++
            (writeItems layout level false more ++ (gap ++ ']' :: rest)))) := by
        simp [writeItems, shape]
      rw [split, readItems_item (blank.gap level) fuel atStart visible unclosed]
      rw [List.nil_append, shape, List.cons_append] at head
      simp [head, tail, sourceItems]

/-- Written members are read back up to the closing bracket. -/
theorem readMembers_writeMembers
    {layout : Layout}
    (blank : layout.IsBlank) :
    (members : List (Text × Json)) → HaveNumberFree members →
      ∀ (level fuel : Nat) (atStart : Bool) (gap rest : Text), IsBlank gap →
        2 * (writeMembers layout level atStart members).length < fuel →
          readMembers fuel atStart
            (writeMembers layout level atStart members ++ (gap ++ '\x7d' :: rest)) =
              (sourceMembers members, rest)
  | [], _, _, fuel, atStart, gap, rest, spaces, enough => by
    cases fuel with
    | zero => simp at enough
    | succ fuel => exact readMembers_closing spaces fuel atStart rest
  | (key, value) :: more, numberFree, level, fuel, atStart, gap, rest, spaces, enough => by
    cases fuel with
    | zero => simp at enough
    | succ fuel =>
      simp only [writeMembers, List.length_append, List.length_cons] at enough
      have head := readValue_writeAt blank value numberFree.1 level fuel layout.afterColon
        (writeMembers layout level false more ++ (gap ++ '\x7d' :: rest)) blank.afterColon
        (by omega)
      have tail := readMembers_writeMembers blank more numberFree.2 level fuel false gap rest spaces
        (by omega)
      have split : writeMembers layout level atStart ((key, value) :: more) ++
            (gap ++ '\x7d' :: rest) =
          comma atStart ++ (layout.gap level ++ (Quoted.write key ++ ':' ::
            (layout.afterColon ++ (writeAt layout level value ++
              (writeMembers layout level false more ++ (gap ++ '\x7d' :: rest)))))) := by
        simp [writeMembers]
      rw [split, readMembers_member (blank.gap level) fuel atStart]
      simp [head, tail, sourceMembers]

end

/-- Both layouts of a value without numbers are read as the value's tree. -/
theorem read_writeAt
    {layout : Layout}
    (blank : layout.IsBlank)
    {value : Json}
    (numberFree : IsNumberFree value)
    (level : Nat)
    (rest : Text) :
    Source.read (writeAt layout level value ++ rest) = (source value, rest) := by
  rw [Source.read]
  refine readValue_writeAt blank value numberFree level _ [] rest (by simp [IsBlank]) ?_
  rw [List.length_append]
  omega

theorem isBlank_tight : Layout.tight.IsBlank :=
  ⟨fun _ => by simp [Layout.tight, IsBlank], by simp [Layout.tight, IsBlank]⟩

theorem isBlank_wide : Layout.wide.IsBlank := by
  refine ⟨fun level character member => ?_, by simp [Layout.wide, IsBlank, isSpace]⟩
  rcases List.mem_cons.mp member with rfl | spaces
  · rfl
  · rw [(List.mem_replicate.mp spaces).2]
    rfl

/-- What a reader makes of a value's tree, it makes of the value's text. -/
theorem readAll_writeAt
    {α : Type}
    {read : Reader α}
    {layout : Layout}
    (blank : layout.IsBlank)
    {value : Json}
    (numberFree : IsNumberFree value)
    (level : Nat)
    {rest : Text}
    (spaces : IsBlank rest)
    {result : α}
    (known : read depthLimit (source value) = .ok result) :
    readAll read (writeAt layout level value ++ rest) = .ok result := by
  have emptied : dropSpace rest = [] := by
    have dropped := dropSpace_append spaces []
    rwa [List.append_nil] at dropped
  rw [readAll, read_writeAt blank numberFree]
  simp [known, emptied]

end TechniquePages.Json
