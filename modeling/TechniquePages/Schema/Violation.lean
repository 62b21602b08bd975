import TechniquePages.Json.Value

/-!
# Violations

A violation says where in a value a schema is not met, and how.  The place is
a JSON pointer; at the top of the value it is empty and not shown.
-/

namespace TechniquePages.Schema

/-- The types that a schema may ask for, in the order of their names. -/
inductive TypeName where
  | array
  | boolean
  | integer
  | null
  | number
  | object
  | string
  deriving DecidableEq

namespace TypeName

/-- Every type, in the order of their names. -/
def all : List TypeName := [.array, .boolean, .integer, .null, .number, .object, .string]

/-- The name of a type, as schemas and messages write it. -/
def name : TypeName → Text
  | .array => "array".toList
  | .boolean => "boolean".toList
  | .integer => "integer".toList
  | .null => "null".toList
  | .number => "number".toList
  | .object => "object".toList
  | .string => "string".toList

/-- The type of a name. -/
def ofName? (text : Text) : Option TypeName :=
  all.find? fun type => type.name == text

end TypeName

/-- A step from a value to a part of it. -/
inductive PointerStep where
  | member (key : Text)
  | item (index : Nat)
  deriving DecidableEq

/-- The steps to a part of a value. -/
abbrev Pointer := List PointerStep

/-- A key as it stands in a pointer. -/
def escapeKey (key : Text) : Text :=
  key.flatMap fun character =>
    if character = '~' then "~0".toList
    else if character = '/' then "~1".toList
    else [character]

/-- A pointer as text, every step behind a slash. -/
def Pointer.text (pointer : Pointer) : Text :=
  pointer.flatMap fun step =>
    match step with
    | .member key => '/' :: escapeKey key
    | .item index => '/' :: Text.ofNat index

/-- How a value does not meet a schema. -/
inductive Complaint where
  | wrongType (value : Json) (types : List TypeName)
  | missing (key : Text)
  | unmatched (value : Json) (pattern : Text)
  | notListed (value : Json) (options : List Json)
  | notConstant (expected : Json)
  | tooShort (value : Json) (least : Nat)
  | tooLong (value : Json) (most : Nat)
  | tooFewItems (value : Json) (least : Nat)
  | tooManyItems (value : Json) (most : Nat)
  | tooFewMembers (value : Json) (least : Nat)
  | tooManyMembers (value : Json) (most : Nat)
  | repeatedItems (value : Json)
  | belowMinimum (value : Json) (minimum : Json)
  | aboveMaximum (value : Json) (maximum : Json)
  | notAbove (value : Json) (minimum : Json)
  | notBelow (value : Json) (maximum : Json)
  | notMultiple (value : Json) (factor : Json)
  | unexpectedMembers (keys : List Text)
  | forbidden (value : Json)
  | noneOfAny (value : Json)
  | noneOfOne (value : Json)
  | severalOfOne (value : Json)
  | excluded (value : Json) (schema : Json)
  | notContained (value : Json)

/-- A count with a noun in the singular or the plural. -/
def counted (count : Nat) (one many : String) : Text :=
  Text.ofNat count ++ ' ' :: (if count = 1 then one else many).toList

/-- Texts between single quotation marks with commas between them. -/
def quotedKeys (keys : List Text) : Text :=
  Text.joinWith ", ".toList (keys.map fun key => "'".toList ++ key ++ "'".toList)

/-- The wording of a complaint. -/
def Complaint.message : Complaint → Text
  | .wrongType value [type] =>
    value.compact ++ " is not of type ".toList ++ "\"".toList ++ type.name ++ "\"".toList
  | .wrongType value types =>
    value.compact ++ " is not of types ".toList ++
      Text.joinWith ", ".toList (types.map fun type => '\"' :: type.name ++ ['\"'])
  | .missing key => (Json.string key).compact ++ " is a required property".toList
  | .unmatched value pattern =>
    value.compact ++ " does not match \"".toList ++ pattern ++ "\"".toList
  | .notListed value options =>
    value.compact ++ " is not one of ".toList ++ (Json.array options).compact
  | .notConstant expected => expected.compact ++ " was expected".toList
  | .tooShort value least =>
    value.compact ++ " is shorter than ".toList ++ counted least "character" "characters"
  | .tooLong value most =>
    value.compact ++ " is longer than ".toList ++ counted most "character" "characters"
  | .tooFewItems value least =>
    value.compact ++ " has less than ".toList ++ counted least "item" "items"
  | .tooManyItems value most =>
    value.compact ++ " has more than ".toList ++ counted most "item" "items"
  | .tooFewMembers value least =>
    value.compact ++ " has less than ".toList ++ counted least "property" "properties"
  | .tooManyMembers value most =>
    value.compact ++ " has more than ".toList ++ counted most "property" "properties"
  | .repeatedItems value => value.compact ++ " has non-unique elements".toList
  | .belowMinimum value minimum =>
    value.compact ++ " is less than the minimum of ".toList ++ minimum.compact
  | .aboveMaximum value maximum =>
    value.compact ++ " is greater than the maximum of ".toList ++ maximum.compact
  | .notAbove value minimum =>
    value.compact ++ " is less than or equal to the minimum of ".toList ++ minimum.compact
  | .notBelow value maximum =>
    value.compact ++ " is greater than or equal to the maximum of ".toList ++ maximum.compact
  | .notMultiple value factor =>
    value.compact ++ " is not a multiple of ".toList ++ factor.compact
  | .unexpectedMembers keys =>
    "Additional properties are not allowed (".toList ++ quotedKeys keys ++
      (if keys.length = 1 then " was unexpected)" else " were unexpected)").toList
  | .forbidden value => "False schema does not allow ".toList ++ value.compact
  | .noneOfAny value =>
    value.compact ++ " is not valid under any of the schemas listed in the 'anyOf' keyword".toList
  | .noneOfOne value =>
    value.compact ++ " is not valid under any of the schemas listed in the 'oneOf' keyword".toList
  | .severalOfOne value =>
    value.compact ++
      " is valid under more than one of the schemas listed in the 'oneOf' keyword".toList
  | .excluded value schema => schema.compact ++ " is not allowed for ".toList ++ value.compact
  | .notContained value =>
    "None of ".toList ++ value.compact ++ " are valid under the given schema".toList

/-- A complaint and the place it is about. -/
structure Violation where
  pointer : Pointer
  complaint : Complaint

/-- The wording of a violation: the place before the complaint, unless it is the top. -/
def Violation.message (violation : Violation) : Text :=
  if violation.pointer.isEmpty then violation.complaint.message
  else violation.pointer.text ++ ": ".toList ++ violation.complaint.message

end TechniquePages.Schema
