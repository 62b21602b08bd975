import TechniquePages.Schema.Form

/-!
# Checking values

A value is checked against the keywords of a schema in key order, and every
violation is reported.  A keyword speaks about one type of value and is silent
about others.

Members that are named by no property and no pattern belong to the additional
ones.  Where these are restricted, all members are gone through in one pass, in
key order; otherwise properties and patterns are gone through on their own.

A reference may lead anywhere in the document, so checking is bounded by the
product of the sizes of document and value.
-/

namespace TechniquePages.Schema

/-- The value has the type; a whole number is an integer however it is written. -/
def TypeName.holds : TypeName → Json → Bool
  | .array, .array _ => true
  | .boolean, .boolean _ => true
  | .integer, .number value => value.isWhole
  | .null, .null => true
  | .number, .number _ => true
  | .object, .object _ => true
  | .string, .string _ => true
  | _, _ => false

/-- The types that a keyword asks for, in the order of their names. -/
def typesOf : Json → List TypeName
  | .string name => (TypeName.ofName? name).toList
  | .array items => TypeName.all.filter fun type => items.any fun item =>
    match item with
    | .string name => name == type.name
    | _ => false
  | _ => []

/-- The natural that the value of a keyword is. -/
def naturalOf : Json → Nat
  | .number value => value.natural?.getD 0
  | _ => 0

/-- A complaint about a place, unless a condition holds. -/
def report (holds : Bool) (pointer : Pointer) (complaint : Complaint) : List Violation :=
  if holds then [] else [⟨pointer, complaint⟩]

/-- The patterns that are the keys of an object, each with its schema. -/
def patternsOf : Json → List (Pattern × Json)
  | .object members =>
    members.filterMap fun (text, schema) =>
      (Pattern.ofText? text).map fun pattern => (pattern, schema)
  | _ => []

/-- The members of an object; any other value has none. -/
def membersOf : Json → List (Text × Json)
  | .object members => members
  | _ => []

/-- The items of a list; any other value has none. -/
def itemsOf : Json → List Json
  | .array items => items
  | _ => []

/-- The texts among the items of a list. -/
def textsOf (value : Json) : List Text :=
  (itemsOf value).filterMap fun item =>
    match item with
    | .string text => some text
    | _ => none

/-- What a keyword that looks at nothing but the value says. -/
def checkPlain (keyword : Text) (argument value : Json) (pointer : Pointer) : List Violation :=
  match String.ofList keyword, value with
  | "type", value =>
    let types := typesOf argument
    report (types.any (·.holds value)) pointer (.wrongType value types)
  | "enum", value =>
    report ((itemsOf argument).any (Json.same value)) pointer
      (.notListed value (itemsOf argument))
  | "const", value => report (argument.same value) pointer (.notConstant argument)
  | "minLength", .string text =>
    report (naturalOf argument ≤ text.length) pointer (.tooShort value (naturalOf argument))
  | "maxLength", .string text =>
    report (text.length ≤ naturalOf argument) pointer (.tooLong value (naturalOf argument))
  | "pattern", .string text =>
    match argument with
    | .string written =>
      report ((Pattern.ofText? written).any (·.fits text)) pointer (.unmatched value written)
    | _ => []
  | "minItems", .array items =>
    report (naturalOf argument ≤ items.length) pointer
      (.tooFewItems value (naturalOf argument))
  | "maxItems", .array items =>
    report (items.length ≤ naturalOf argument) pointer
      (.tooManyItems value (naturalOf argument))
  | "uniqueItems", .array items =>
    match argument with
    | .boolean true => report (Json.allDistinct items) pointer (.repeatedItems value)
    | _ => []
  | "minProperties", .object members =>
    report (naturalOf argument ≤ members.length) pointer
      (.tooFewMembers value (naturalOf argument))
  | "maxProperties", .object members =>
    report (members.length ≤ naturalOf argument) pointer
      (.tooManyMembers value (naturalOf argument))
  | "required", .object members =>
    (textsOf argument).flatMap fun key =>
      report (Json.member? key members).isSome pointer (.missing key)
  | "dependentRequired", .object members =>
    (membersOf argument).flatMap fun (key, needed) =>
      if (Json.member? key members).isSome then
        (textsOf needed).flatMap fun other =>
          report (Json.member? other members).isSome pointer (.missing other)
      else []
  | "minimum", .number number =>
    match argument with
    | .number limit => report (!number.less limit) pointer (.belowMinimum value argument)
    | _ => []
  | "maximum", .number number =>
    match argument with
    | .number limit => report (!limit.less number) pointer (.aboveMaximum value argument)
    | _ => []
  | "exclusiveMinimum", .number number =>
    match argument with
    | .number limit => report (limit.less number) pointer (.notAbove value argument)
    | _ => []
  | "exclusiveMaximum", .number number =>
    match argument with
    | .number limit => report (number.less limit) pointer (.notBelow value argument)
    | _ => []
  | "multipleOf", .number number =>
    match argument with
    | .number factor =>
      report (number.isMultipleOf factor) pointer (.notMultiple value argument)
    | _ => []
  | _, _ => []

/-- A way to find the violations of a schema by a value at a place. -/
abbrev Checker := (schema value : Json) → Pointer → List Violation

/-- Check items against one schema, given the index of the first one. -/
def checkItems (check : Checker) (schema : Json) (pointer : Pointer) :
    (index : Nat) → List Json → List Violation
  | _, [] => []
  | index, item :: rest =>
    check schema item (pointer ++ [.item index]) ++
      checkItems check schema pointer (index + 1) rest

/-- Check items against the schemas of their indexes; items beyond these are left alone. -/
def checkPlaces (check : Checker) (pointer : Pointer) :
    (index : Nat) → List Json → List Json → List Violation
  | index, schema :: schemas, item :: rest =>
    check schema item (pointer ++ [.item index]) ++
      checkPlaces check pointer (index + 1) schemas rest
  | _, _, _ => []

/-- Check a member against the patterns that fit its key. -/
def checkPatterns
    (check : Checker)
    (patterns : List (Pattern × Json))
    (pointer : Pointer)
    (member : Text × Json) : List Violation :=
  (patterns.filter fun (pattern, _) => pattern.fits member.1).flatMap fun (_, schema) =>
    check schema member.2 (pointer ++ [.member member.1])

/-- A member of an object that no property and no pattern names. -/
def isAdditional
    (properties : List (Text × Json))
    (patterns : List (Pattern × Json))
    (key : Text) : Bool :=
  (Json.member? key properties).isNone && !patterns.any fun (pattern, _) => pattern.fits key

/-- Check the members of an object in one pass, the additional ones among them. -/
def checkMembers
    (check : Checker)
    (schema : List (Text × Json))
    (additional : Json)
    (members : List (Text × Json))
    (pointer : Pointer) : List Violation :=
  let properties := ((Json.member? "properties".toList schema).map membersOf).getD []
  let patterns := ((Json.member? "patternProperties".toList schema).map patternsOf).getD []
  let named := members.flatMap fun (key, value) =>
    ((Json.member? key properties).toList.flatMap fun schema =>
      check schema value (pointer ++ [.member key])) ++
      checkPatterns check patterns pointer (key, value) ++
      (match additional with
        | .object _ =>
          if isAdditional properties patterns key then
            check additional value (pointer ++ [.member key])
          else []
        | _ => [])
  let unexpected := (members.map Prod.fst).filter (isAdditional properties patterns)
  match additional with
  | .boolean false =>
    if (Json.member? "properties".toList schema).isNone &&
        (Json.member? "patternProperties".toList schema).isNone then
      -- With no member named anywhere, the first one is reported as a value that may not be.
      match members with
      | [] => []
      | (_, value) :: _ => [⟨pointer, .forbidden value⟩]
    else named ++ report unexpected.isEmpty pointer (.unexpectedMembers unexpected)
  | _ => named

/-- The additional members are restricted, so they are checked with the named ones. -/
def restrictsAdditional (schema : List (Text × Json)) : Bool :=
  match Json.member? "additionalProperties".toList schema with
  | some (.boolean false) => true
  | some (.object _) => true
  | _ => false

/-- What a keyword that is built from schemas says. -/
def checkNested
    (document : Document)
    (check : Checker)
    (schema : List (Text × Json))
    (keyword : Text)
    (argument value : Json)
    (pointer : Pointer) : List Violation :=
  let accepts (schema : Json) : Bool := (check schema value pointer).isEmpty
  match String.ofList keyword, value with
  | "$ref", value =>
    match argument with
    | .string reference =>
      ((resolve? document reference).toList).flatMap fun target => check target value pointer
    | _ => []
  | "properties", .object members =>
    if restrictsAdditional schema then []
    else
      (membersOf argument).flatMap fun (key, part) =>
        (Json.member? key members).toList.flatMap fun value =>
          check part value (pointer ++ [.member key])
  | "patternProperties", .object members =>
    if restrictsAdditional schema then []
    else
      (patternsOf argument).flatMap fun pattern =>
        members.flatMap (checkPatterns check [pattern] pointer)
  | "additionalProperties", .object members =>
    if restrictsAdditional schema then checkMembers check schema argument members pointer
    else []
  | "propertyNames", .object members =>
    members.flatMap fun (key, _) => check argument (.string key) pointer
  | "dependentSchemas", .object members =>
    (membersOf argument).flatMap fun (key, part) =>
      if (Json.member? key members).isSome then check part value pointer else []
  | "prefixItems", .array items => checkPlaces check pointer 0 (itemsOf argument) items
  | "items", .array items =>
    let leading := ((Json.member? "prefixItems".toList schema).map itemsOf).getD []
    checkItems check argument pointer leading.length (items.drop leading.length)
  | "contains", .array items =>
    let count := (items.filter fun item => (check argument item pointer).isEmpty).length
    let least := ((Json.member? "minContains".toList schema).map naturalOf).getD 1
    let most := (Json.member? "maxContains".toList schema).map naturalOf
    report (least ≤ count && (most.map fun most => decide (count ≤ most)).getD true) pointer
      (.notContained value)
  | "allOf", value => (itemsOf argument).flatMap fun part => check part value pointer
  | "anyOf", value =>
    report ((itemsOf argument).any accepts) pointer (.noneOfAny value)
  | "oneOf", value =>
    match ((itemsOf argument).filter accepts).length with
    | 0 => [⟨pointer, .noneOfOne value⟩]
    | 1 => []
    | _ => [⟨pointer, .severalOfOne value⟩]
  | "not", value => report (!accepts argument) pointer (.excluded value argument)
  | "if", value =>
    let branch := if accepts argument then "then" else "else"
    (Json.member? branch.toList schema).toList.flatMap fun part => check part value pointer
  | _, _ => []

/-- Check a value against a schema, following at most so many steps. -/
def checkWithin (document : Document) : (fuel : Nat) → Checker
  -- Fuel runs out only on references that lead back to themselves at one value.
  | 0, _, _, _ => []
  | fuel + 1, schema, value, pointer =>
    match schema with
    | .boolean false => [⟨pointer, .forbidden value⟩]
    | .object members =>
      members.flatMap fun (keyword, argument) =>
        checkPlain keyword argument value pointer ++
          checkNested document (checkWithin document fuel) members keyword argument value pointer
    | _ => []

/-- All violations of a schema by a value. -/
def violations (document : Document) (value : Json) : List Violation :=
  checkWithin document ((document.nodeCount + 1) * (value.nodeCount + 1)) document value []

end TechniquePages.Schema
