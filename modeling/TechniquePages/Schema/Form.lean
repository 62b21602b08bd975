import TechniquePages.Schema.Numeric
import TechniquePages.Schema.Pattern
import TechniquePages.Schema.Violation

/-!
# The form of schemas

A schema is a truth value or an object, and the value of each known keyword in
it has a fixed form.  A value that lacks this form is no schema.

References are pointers into the schema document; each has to lead to a
schema.
-/

namespace TechniquePages.Schema

/-- The document that pointers of references start from. -/
abbrev Document := Json

/-- Undo the escapes of a key in a pointer. -/
def unescapeKey : Text → Text
  | '~' :: '1' :: rest => '/' :: unescapeKey rest
  | '~' :: '0' :: rest => '~' :: unescapeKey rest
  | character :: rest => character :: unescapeKey rest
  | [] => []

/-- The index that decimal digits stand for; a zero does not lead other digits. -/
def index? (text : Text) : Option Nat :=
  if text.isEmpty || !text.all Char.isDigit || (text.head? = some '0' && text.length ≠ 1) then
    none
  else some (Text.numberOf Text.decimalValue? 10 text)

/-- The part of a value that pointer keys lead to. -/
def follow? : List Text → Json → Option Json
  | [], value => some value
  | key :: rest, .object members => do
    let value ← Json.member? (unescapeKey key) members
    follow? rest value
  | key :: rest, .array items => do
    let index ← index? key
    let value ← items[index]?
    follow? rest value
  | _ :: _, _ => none

/-- The schema that a reference leads to. -/
def resolve? (document : Document) (reference : Text) : Option Json :=
  match reference with
  | ['#'] => some document
  | '#' :: '/' :: path => follow? (Text.cutAt '/' path) document
  | _ => none

/-- A text. -/
def isText : Json → Bool
  | .string _ => true
  | _ => false

/-- A number of any kind. -/
def isNumber : Json → Bool
  | .number _ => true
  | _ => false

/-- A natural, with or without a point. -/
def isNatural : Json → Bool
  | .number value => value.natural?.isSome
  | _ => false

/-- A truth value. -/
def isTruth : Json → Bool
  | .boolean _ => true
  | _ => false

/-- A list of anything. -/
def isList : Json → Bool
  | .array _ => true
  | _ => false

/-- A list of different texts. -/
def isTextList : Json → Bool
  | .array items => items.all isText && Json.allDistinct items
  | _ => false

/-- The name of a type. -/
def isTypeName : Json → Bool
  | .string name => (TypeName.ofName? name).isSome
  | _ => false

/-- The name of a type, or a list of different ones. -/
def isTypeForm : Json → Bool
  | .array items => !items.isEmpty && items.all isTypeName && Json.allDistinct items
  | value => isTypeName value

/-- A number above zero. -/
def isPositive : Json → Bool
  | .number value => 0 < value.ratio.1
  | _ => false

/-- A text that writes a pattern. -/
def isPattern : Json → Bool
  | .string text => (Pattern.ofText? text).isSome
  | _ => false

/-- A reference that leads to a part of the document. -/
def isReference (document : Document) : Json → Bool
  | .string reference => (resolve? document reference).isSome
  | _ => false

/-- An object of which every member has a form. -/
def isObjectOf (form : Json → Bool) : Json → Bool
  | .object members => members.all fun member => form member.2
  | _ => false

/-- How the value of a keyword is built from schemas. -/
inductive Part where
  | schema
  /-- A list of schemas, which is not empty. -/
  | schemas
  | schemasByKey
  /-- Schemas under keys that write patterns. -/
  | schemasByPattern
  /-- Built from no schema; a form of its own. -/
  | plain (form : Json → Bool)

/-- The form of the value of a keyword; unknown keywords may have any value. -/
def partOf (document : Document) (keyword : Text) : Part :=
  match String.ofList keyword with
  | "additionalProperties" => .schema
  | "contains" => .schema
  | "contentSchema" => .schema
  | "else" => .schema
  | "if" => .schema
  | "items" => .schema
  | "not" => .schema
  | "propertyNames" => .schema
  | "then" => .schema
  | "unevaluatedItems" => .schema
  | "unevaluatedProperties" => .schema
  | "allOf" => .schemas
  | "anyOf" => .schemas
  | "oneOf" => .schemas
  | "prefixItems" => .schemas
  | "$defs" => .schemasByKey
  | "definitions" => .schemasByKey
  | "dependentSchemas" => .schemasByKey
  | "properties" => .schemasByKey
  | "patternProperties" => .schemasByPattern
  | "$ref" => .plain (isReference document)
  | "$anchor" => .plain isText
  | "$comment" => .plain isText
  | "$dynamicAnchor" => .plain isText
  | "$id" => .plain isText
  | "$schema" => .plain isText
  | "contentEncoding" => .plain isText
  | "contentMediaType" => .plain isText
  | "description" => .plain isText
  | "format" => .plain isText
  | "title" => .plain isText
  | "deprecated" => .plain isTruth
  | "readOnly" => .plain isTruth
  | "uniqueItems" => .plain isTruth
  | "writeOnly" => .plain isTruth
  | "enum" => .plain isList
  | "examples" => .plain isList
  | "type" => .plain isTypeForm
  | "pattern" => .plain isPattern
  | "required" => .plain isTextList
  | "dependentRequired" => .plain (isObjectOf isTextList)
  | "exclusiveMaximum" => .plain isNumber
  | "exclusiveMinimum" => .plain isNumber
  | "maximum" => .plain isNumber
  | "minimum" => .plain isNumber
  | "multipleOf" => .plain isPositive
  | "maxContains" => .plain isNatural
  | "maxItems" => .plain isNatural
  | "maxLength" => .plain isNatural
  | "maxProperties" => .plain isNatural
  | "minContains" => .plain isNatural
  | "minItems" => .plain isNatural
  | "minLength" => .plain isNatural
  | "minProperties" => .plain isNatural
  | _ => .plain fun _ => true

mutual

/-- The value has the form of a schema. -/
def isSchema (document : Document) : Json → Bool
  | .boolean _ => true
  | .object members => membersAreFormed document members
  | .null => false
  | .number _ => false
  | .string _ => false
  | .array _ => false

/-- The value of every keyword has the keyword's form. -/
def membersAreFormed (document : Document) : List (Text × Json) → Bool
  | [] => true
  | (keyword, value) :: rest =>
    (match partOf document keyword, value with
      | .schema, value => isSchema document value
      | .schemas, .array items => !items.isEmpty && allSchemas document items
      | .schemas, _ => false
      | .schemasByKey, .object members => allMemberSchemas document members
      | .schemasByKey, _ => false
      | .schemasByPattern, .object members =>
        (members.all fun member => (Pattern.ofText? member.1).isSome) &&
          allMemberSchemas document members
      | .schemasByPattern, _ => false
      | .plain form, value => form value) &&
      membersAreFormed document rest

/-- Every item has the form of a schema. -/
def allSchemas (document : Document) : List Json → Bool
  | [] => true
  | item :: rest => isSchema document item && allSchemas document rest

/-- The value of every member has the form of a schema. -/
def allMemberSchemas (document : Document) : List (Text × Json) → Bool
  | [] => true
  | (_, value) :: rest => isSchema document value && allMemberSchemas document rest

end

end TechniquePages.Schema
