import TechniquePages.Settings.Setting
import TechniquePages.Unicode.Case

/-!
# Merging settings

Later settings are put over earlier ones.  Names are taken in lower case.  A
table is merged member by member into what is there; anything else takes the
place of what is there.  What is walked through on the way and is no table, or
no list where a position is asked for, gives way to an empty one.

A table without members changes nothing but the absence of its name.  A single
setting is put at a key path.
-/

namespace TechniquePages

/-!
## Key paths

A key path says where a setting belongs: a name, followed by names after dots
and by positions in brackets.  A position below zero counts from the end of
the list.
-/

/-- A step from a setting to a part of it. -/
inductive KeyStep where
  /-- To the member of a table. -/
  | name (name : Text)
  /-- To the item of a list; below zero it counts from the end. -/
  | position (index : Int)
  deriving DecidableEq

/-- The steps of a key path; the first one is a name. -/
abbrev KeyPath := List KeyStep

namespace KeyPath

/-- A character of a name in a key path. -/
def isNameCharacter (character : Char) : Bool :=
  character.isAlphanum || character == ' ' || character == '_' || character == '-'

/-- Take a name, which is not empty. -/
def takeName? (text : Text) : Option (KeyStep × Text) :=
  match text.takeWhile isNameCharacter with
  | [] => none
  | name => some (.name name, text.dropWhile isNameCharacter)

/-- Drop the blanks and tabs around a position. -/
def dropBlank (text : Text) : Text :=
  text.dropWhile fun character => character == ' ' || character == '\t'

/-- Take a position up to its closing bracket; it is held in 64 bits. -/
def takePosition? (text : Text) : Option (KeyStep × Text) :=
  let (negative, rest) : Bool × Text :=
    match dropBlank text with
    | '-' :: rest => (true, rest)
    | rest => (false, rest)
  let digits := rest.takeWhile Char.isDigit
  let magnitude : Int := Text.numberOf Text.decimalValue? 10 digits
  let index := if negative then -magnitude else magnitude
  if digits.isEmpty || index < -0x8000000000000000 || 0x8000000000000000 ≤ index then none
  else
    match dropBlank (rest.dropWhile Char.isDigit) with
    | ']' :: rest => some (.position index, rest)
    | _ => none

/-- The steps after the first one; nothing else may follow. -/
def stepsOf? : (fuel : Nat) → Text → Option KeyPath
  | _, [] => some []
  | 0, _ => none
  | fuel + 1, '.' :: rest => do
    let (step, rest) ← takeName? rest
    (stepsOf? fuel rest).map (step :: ·)
  | fuel + 1, '[' :: rest => do
    let (step, rest) ← takePosition? rest
    (stepsOf? fuel rest).map (step :: ·)
  | _, _ => none

/-- The key path that a text spells. -/
def ofText? (text : Text) : Option KeyPath := do
  let (first, rest) ← takeName? text
  (stepsOf? rest.length rest).map (first :: ·)

example : ofText? "log.level".toList = some [.name "log".toList, .name "level".toList] := by
  decide

example : ofText? "a[ -1 ]".toList = some [.name ['a'], .position (-1)] := by decide

example : ofText? [] = none ∧ ofText? "a..b".toList = none := by decide

end KeyPath

namespace Setting

/-! ## Putting settings over others -/

/-- The members of a table with its origin; anything else gives way to an empty table. -/
def asTable : Setting → Members × Option FilePath
  | .table members origin => (members, origin)
  | _ => ([], none)

/-- The items of a list with its origin; anything else gives way to an empty list. -/
def asList : Setting → List Setting × Option FilePath
  | .list items origin => (items, origin)
  | _ => ([], none)

/-- Change the member of a name, or add one at the end. -/
def changeMember
    (name : Text)
    (change : Setting → Setting) : Members → Members
  | [] => [(name, change .absent)]
  | (other, present) :: rest =>
    if other = name then (other, change present) :: rest
    else (other, present) :: changeMember name change rest

mutual

/-- Put a value over the member of a name. -/
def mergeMember (name : Text) (members : Members) : Setting → Members
  | .table [] _ =>
    if (members.lookup name).isSome then members else members ++ [(name, .table [] none)]
  | .table (member :: rest) _ =>
    changeMember name
      (fun present =>
        let (inner, origin) := asTable present
        .table (mergeMembers inner (member :: rest)) origin)
      members
  | value => changeMember name (fun _ => value) members

/-- Put members over members, one after the other. -/
def mergeMembers (members : Members) : Members → Members
  | [] => members
  | (name, value) :: rest =>
    mergeMembers (mergeMember (Unicode.lower name) members value) rest

end

/-- The place in a list that a position stands for. -/
def indexOf? (length : Nat) (position : Int) : Option Nat :=
  if 0 ≤ position then some position.toNat
  else if position.natAbs ≤ length then some (length - position.natAbs)
  else none

/-- Change the item at an index; a list that is too short is filled up. -/
def changeItem
    (index : Nat)
    (change : Setting → Setting)
    (items : List Setting) : List Setting :=
  (items ++ List.replicate (index + 1 - items.length) Setting.absent).modify index change

/-- Put a value over the part of a setting that a key path leads to. -/
def placeAt (value : Setting) : KeyPath → Setting → Setting
  | [], _ => value
  | [.name name], parent =>
    let (members, origin) := asTable parent
    .table (mergeMember (Unicode.lower name) members value) origin
  | .name name :: next :: path, parent =>
    let (members, origin) := asTable parent
    .table (changeMember (Unicode.lower name) (placeAt value (next :: path)) members) origin
  | .position position :: path, parent =>
    let (items, origin) := asList parent
    match indexOf? items.length position with
    | none => .list items origin
    | some index => .list (changeItem index (placeAt value path) items) origin

/--
Put the members of a file over a setting.  The name of a member may spell a
key path; if it does not, it is a name.
-/
def mergeFile (setting : Setting) (members : Members) : Setting :=
  members.foldl
    (fun setting (name, value) =>
      placeAt value ((KeyPath.ofText? name).getD [.name name]) setting)
    setting

end Setting

end TechniquePages
