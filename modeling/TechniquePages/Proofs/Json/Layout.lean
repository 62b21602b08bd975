import TechniquePages.Json.Source
import TechniquePages.Proofs.Json.Escapes

/-!
# Layouts of a value

The two layouts of a value differ in blanks alone: what stands before an item or
a member and before a closing bracket, and what stands after a colon.  So both
are one writer, given these blanks, and it is read back whatever they are.

The tree that is read is the value's own.  This is shown for values without
numbers, the only ones that records hold.
-/

namespace TechniquePages.Json

/-- The blanks of a layout. -/
structure Layout where
  /-- What stands before items, members and closing brackets at a level. -/
  gap : (level : Nat) → Text
  /-- What stands after a colon. -/
  afterColon : Text

/-- The layout without blanks. -/
def Layout.tight : Layout := ⟨fun _ => [], []⟩

/-- The layout with a line for every item and member. -/
def Layout.wide : Layout := ⟨lineBreak, [' ']⟩

/-- Nothing but blanks. -/
def IsBlank (text : Text) : Prop :=
  ∀ character ∈ text, isSpace character = true

/-- The layout adds nothing but blanks. -/
structure Layout.IsBlank (layout : Layout) : Prop where
  gap : ∀ level, Json.IsBlank (layout.gap level)
  afterColon : Json.IsBlank layout.afterColon

/-- A comma before every item or member but the first. -/
def comma (atStart : Bool) : Text :=
  if atStart then [] else [',']

mutual

/-- The text of a value at a level. -/
def writeAt
    (layout : Layout)
    (level : Nat) : Json → Text
  | .null => "null".toList
  | .boolean value => booleanText value
  | .number value => value.text
  | .string value => Quoted.write value
  | .array items =>
    '[' :: (writeItems layout (level + 1) true items ++
      ((if items.isEmpty then [] else layout.gap level) ++ [']']))
  | .object members =>
    '\x7b' :: (writeMembers layout (level + 1) true members ++
      ((if members.isEmpty then [] else layout.gap level) ++ ['\x7d']))

/-- The text of items, each after a comma unless it is the first one. -/
def writeItems
    (layout : Layout)
    (level : Nat)
    (atStart : Bool) : List Json → Text
  | [] => []
  | item :: rest =>
    comma atStart ++ (layout.gap level ++ (writeAt layout level item ++
      writeItems layout level false rest))

/-- The text of members, each after a comma unless it is the first one. -/
def writeMembers
    (layout : Layout)
    (level : Nat)
    (atStart : Bool) : List (Text × Json) → Text
  | [] => []
  | (key, value) :: rest =>
    comma atStart ++ (layout.gap level ++ (Quoted.write key ++ (':' :: (layout.afterColon ++
      (writeAt layout level value ++ writeMembers layout level false rest)))))

end

/-! ## The two layouts -/

theorem writeItems_cons_cons
    (layout : Layout)
    (level : Nat)
    (first second : Json)
    (rest : List Json) :
    writeItems layout level true (first :: second :: rest) =
      layout.gap level ++ writeAt layout level first ++
        ',' :: writeItems layout level true (second :: rest) := by
  simp [writeItems, comma]

theorem writeMembers_cons_cons
    (layout : Layout)
    (level : Nat)
    (key : Text)
    (value : Json)
    (second : Text × Json)
    (rest : List (Text × Json)) :
    writeMembers layout level true ((key, value) :: second :: rest) =
      layout.gap level ++ Quoted.write key ++ ':' :: (layout.afterColon ++
        (writeAt layout level value ++
          ',' :: writeMembers layout level true (second :: rest))) := by
  simp [writeMembers, comma]

mutual

theorem compact_eq (level : Nat) : (value : Json) → value.compact = writeAt .tight level value
  | .null => rfl
  | .boolean value => rfl
  | .number value => rfl
  | .string value => rfl
  | .array items => by
    rw [compact, writeAt, compactItems_eq (level + 1) items]
    simp [Layout.tight]
  | .object members => by
    rw [compact, writeAt, compactMembers_eq (level + 1) members]
    simp [Layout.tight]

theorem compactItems_eq (level : Nat) :
    (items : List Json) → compactItems items = writeItems .tight level true items
  | [] => rfl
  | [item] => by
    rw [compactItems, compact_eq level item]
    simp [writeItems, comma, Layout.tight]
  | item :: next :: rest => by
    rw [compactItems, compact_eq level item, compactItems_eq level (next :: rest),
      writeItems_cons_cons]
    rfl

theorem compactMembers_eq (level : Nat) :
    (members : List (Text × Json)) → compactMembers members = writeMembers .tight level true members
  | [] => rfl
  | [(key, value)] => by
    rw [compactMembers, compact_eq level value]
    simp [writeMembers, comma, Layout.tight]
  | (key, value) :: next :: rest => by
    rw [compactMembers, compact_eq level value, compactMembers_eq level (next :: rest),
      writeMembers_cons_cons]
    rfl

end

mutual

theorem spreadAt_eq (level : Nat) :
    (value : Json) → spreadAt level value = writeAt .wide level value
  | .null => rfl
  | .boolean value => rfl
  | .number value => rfl
  | .string value => rfl
  | .array [] => rfl
  | .array (item :: rest) => by
    rw [spreadAt, writeAt, spreadItems_eq (level + 1) (item :: rest), List.append_assoc]
    rfl
  | .object [] => rfl
  | .object (member :: rest) => by
    rw [spreadAt, writeAt, spreadMembers_eq (level + 1) (member :: rest), List.append_assoc]
    rfl

theorem spreadItems_eq (level : Nat) :
    (items : List Json) → spreadItems level items = writeItems .wide level true items
  | [] => rfl
  | [item] => by
    rw [spreadItems, spreadAt_eq level item]
    simp [writeItems, comma, Layout.wide]
  | item :: next :: rest => by
    rw [spreadItems, spreadAt_eq level item, spreadItems_eq level (next :: rest),
      writeItems_cons_cons]
    rfl

theorem spreadMembers_eq (level : Nat) :
    (members : List (Text × Json)) →
      spreadMembers level members = writeMembers .wide level true members
  | [] => rfl
  | [(key, value)] => by
    rw [spreadMembers, spreadAt_eq level value]
    simp [writeMembers, comma, Layout.wide]
  | (key, value) :: next :: rest => by
    rw [spreadMembers, spreadAt_eq level value, spreadMembers_eq level (next :: rest),
      writeMembers_cons_cons]
    simp [Layout.wide]

end

end TechniquePages.Json
