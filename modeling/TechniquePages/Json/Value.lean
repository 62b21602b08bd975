import TechniquePages.Json.Number
import TechniquePages.Json.Quoted

/-!
# JSON values

A value keeps the members of its objects in order, repeated keys included.
What a reader of plain values sees is the canonical form: keys in code point
order, and of a repeated key the last value.

The compact layout has no blanks.  The spread layout puts every item and
member on a line of its own, indented by two spaces a level, and leaves an
empty list or object on one line.
-/

namespace TechniquePages

/-- A JSON value with the members of its objects in order. -/
inductive Json where
  | null
  | boolean (value : Bool)
  | number (value : Json.Number)
  | string (value : Text)
  | array (items : List Json)
  | object (members : List (Text × Json))

namespace Json

/-- A word for a truth value. -/
def booleanText : Bool → Text
  | true => "true".toList
  | false => "false".toList

mutual

/-- The value in the compact layout. -/
def compact : Json → Text
  | .null => "null".toList
  | .boolean value => booleanText value
  | .number value => value.text
  | .string value => Quoted.write value
  | .array items => '[' :: (compactItems items ++ [']'])
  | .object members => '\x7b' :: (compactMembers members ++ ['\x7d'])

/-- Items with commas between them. -/
def compactItems : List Json → Text
  | [] => []
  | [item] => compact item
  | item :: next :: rest => compact item ++ ',' :: compactItems (next :: rest)

/-- Members with commas between them. -/
def compactMembers : List (Text × Json) → Text
  | [] => []
  | [(key, value)] => Quoted.write key ++ ':' :: compact value
  | (key, value) :: next :: rest =>
    Quoted.write key ++ ':' :: (compact value ++ ',' :: compactMembers (next :: rest))

end

/-- A line feed and the indentation of a level. -/
def lineBreak (level : Nat) : Text :=
  '\n' :: List.replicate (2 * level) ' '

mutual

/-- The value in the spread layout, its closing bracket at a level. -/
def spreadAt (level : Nat) : Json → Text
  | .null => "null".toList
  | .boolean value => booleanText value
  | .number value => value.text
  | .string value => Quoted.write value
  | .array [] => "[]".toList
  | .array (item :: rest) =>
    '[' :: (spreadItems (level + 1) (item :: rest) ++ lineBreak level ++ [']'])
  | .object [] => "\x7b\x7d".toList
  | .object (member :: rest) =>
    '\x7b' :: (spreadMembers (level + 1) (member :: rest) ++ lineBreak level ++ ['\x7d'])

/-- Items on lines of their own with commas between them. -/
def spreadItems (level : Nat) : List Json → Text
  | [] => []
  | [item] => lineBreak level ++ spreadAt level item
  | item :: next :: rest =>
    lineBreak level ++ spreadAt level item ++ ',' :: spreadItems level (next :: rest)

/-- Members on lines of their own with commas between them. -/
def spreadMembers (level : Nat) : List (Text × Json) → Text
  | [] => []
  | [(key, value)] => lineBreak level ++ Quoted.write key ++ ": ".toList ++ spreadAt level value
  | (key, value) :: next :: rest =>
    lineBreak level ++ Quoted.write key ++ ": ".toList ++ spreadAt level value ++
      ',' :: spreadMembers level (next :: rest)

end

/-- The value in the spread layout. -/
def spread (value : Json) : Text :=
  spreadAt 0 value

/-- Put a member at its place by key; it replaces the member that has its key. -/
def insertMember
    (key : Text)
    (value : Json) : List (Text × Json) → List (Text × Json)
  | [] => [(key, value)]
  | (other, present) :: rest =>
    if key = other then (key, value) :: rest
    else if Text.precedes key other then (key, value) :: (other, present) :: rest
    else (other, present) :: insertMember key value rest

/-- Members in key order, the last of each key, given the members sorted so far. -/
def sortMembers
    (sorted : List (Text × Json)) : List (Text × Json) → List (Text × Json)
  | [] => sorted
  | (key, value) :: rest => sortMembers (insertMember key value sorted) rest

mutual

/-- The value as a reader sees it who keeps one member a key, in key order. -/
def canonical : Json → Json
  | .null => .null
  | .boolean value => .boolean value
  | .number value => .number value
  | .string value => .string value
  | .array items => .array (canonicalItems items)
  | .object members => .object (sortMembers [] (canonicalMembers members))

/-- Items in canonical form; their order says something and stays. -/
def canonicalItems : List Json → List Json
  | [] => []
  | item :: rest => canonical item :: canonicalItems rest

/-- Members with canonical values, not yet sorted. -/
def canonicalMembers : List (Text × Json) → List (Text × Json)
  | [] => []
  | (key, value) :: rest => (key, canonical value) :: canonicalMembers rest

end

/-- The value of a key, the first one where the key is repeated. -/
def member?
    (key : Text)
    (members : List (Text × Json)) : Option Json :=
  members.lookup key

example :
    compact (canonical (.object [(['b'], .null), (['a'], .array []), (['b'], .boolean true)])) =
      "\x7b\"a\":[],\"b\":true\x7d".toList := by decide

end Json

end TechniquePages
