import TechniquePages.Files.Action
import TechniquePages.Json.Reading
import TechniquePages.Schema.Check
import TechniquePages.Technique.Record

/-!
# Schemas

A schema is a JSON document that records may be held to.  It is checked for
its form once; after that every record is checked as the value that would be
written out.
-/

namespace TechniquePages

/-- A document that has the form of a schema. -/
structure Schema where
  document : Json
  formed : Schema.isSchema document document = true

/-- Why a schema cannot be used or is not met. -/
inductive SchemaFault where
  | unreadable (path : FilePath) (fault : FileFault)
  | notJson (fault : Json.Fault)
  | illFormed
  | violated (violations : List Schema.Violation)

/-- The wording of a fault; all violations stand in one message. -/
def SchemaFault.message : SchemaFault → Text
  | .unreadable path fault =>
    "failed to read schema ".toList ++ path ++ ": ".toList ++ fault.message
  | .notJson fault => "schema is not valid JSON: ".toList ++ fault.message
  | .illFormed => "failed to compile schema: the document is not a schema".toList
  | .violated violations =>
    "JSON Schema validation failed: ".toList ++
      Text.joinWith "; ".toList (violations.map Schema.Violation.message)

namespace Schema

/-- A document as a schema, if it has the form of one. -/
def ofJson? (document : Json) : Except SchemaFault Schema :=
  if formed : isSchema document document = true then .ok ⟨document, formed⟩
  else .error .illFormed

/-- The schema that a text holds. -/
def ofText (text : Text) : Except SchemaFault Schema :=
  match Json.parse text with
  | .error fault => .error (.notJson fault)
  | .ok document => ofJson? document

/-- The schema that a file holds. -/
def load (path : FilePath) : Action (Except SchemaFault Schema) :=
  .readText path fun answer =>
    .done (match answer with
      | .error fault => .error (.unreadable path fault)
      | .ok text => ofText text)

/-- Hold a value to a schema. -/
def validateJson (schema : Schema) (value : Json) : Except SchemaFault Unit :=
  match Schema.violations schema.document value with
  | [] => .ok ()
  | violations => .error (.violated violations)

/-- Hold a technique to a schema, as the record that would be written. -/
def validate (schema : Schema) (technique : Technique) : Except SchemaFault Unit :=
  schema.validateJson technique.toJson.canonical

end Schema

end TechniquePages
