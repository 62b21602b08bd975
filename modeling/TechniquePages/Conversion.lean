import TechniquePages.Format
import TechniquePages.Schema

/-!
# Conversions

A conversion reads a document in one format, reshapes the technique, holds it
to a schema if there is one, and writes it in another format.

Nothing is written before the text to write is complete, so a conversion that
fails before that leaves every file as it was.  The directories above the
output are made when they are missing.
-/

namespace TechniquePages

/-- Where the text of a conversion goes. -/
inductive Destination where
  /-- Nowhere; the text is the result. -/
  | memory
  | file (path : FilePath)
  /-- To a file in the directory of the input, named after the input or the technique. -/
  | besideInput
  deriving DecidableEq

/-- What to convert, and how. -/
structure ConversionRequest where
  input : FilePath
  /-- The format of the input; by default that of its extension. -/
  source : Option Text
  /-- The format of the output; by default the other built-in one. -/
  target : Option Text
  destination : Destination
  reshape : Reshape
  schema : Option Schema
  layout : RecordLayout

/-- Why a conversion fails. -/
inductive ConversionFault where
  /-- The input cannot be read, or the output cannot be written. -/
  | file (path : FilePath) (fault : FileFault)
  /-- No format is named, and the input's extension tells none. -/
  | unknownFormat (path : FilePath)
  | format (fault : FormatFault)
  | schema (fault : SchemaFault)

/-- The wording of a fault. -/
def ConversionFault.message : ConversionFault → Text
  | .file path fault => path ++ ": ".toList ++ fault.message
  | .unknownFormat path =>
    "cannot tell the format of ".toList ++ path ++ " from its extension".toList
  | .format fault => fault.message
  | .schema fault => fault.message

/-- What a conversion has made. -/
inductive Artifact where
  | text (text : Text)
  | file (path : FilePath)
  deriving DecidableEq

/-- The technique that was converted, and what was made of it. -/
structure Converted where
  identifier : Text
  artifact : Artifact
  deriving DecidableEq

/-- The built-in format that a document is usually converted to. -/
def oppositeFormat (format : Text) : Text :=
  if format = "json".toList then "markdown".toList else "json".toList

/--
The output beside an input: a page is named after its technique, any other
output after the input.
-/
def outputBeside
    (input : FilePath)
    (target identifier : Text) : FilePath :=
  if target = "markdown".toList then
    let name := if identifier.isEmpty then "TECHNIQUE".toList else identifier
    (input.parent?.getD []).join (name ++ ".md".toList)
  else input ++ '.' :: target

namespace ConversionRequest

/-- Convert a file with nothing else chosen. -/
def ofInput (input : FilePath) : ConversionRequest :=
  ⟨input, none, none, .memory, .none, none, .spread⟩

/-- The formats that the request may name. -/
def registry (request : ConversionRequest) : Registry :=
  .builtIn request.layout

/-- The format of the input, by its extension unless the request names one. -/
def sourceFormat (request : ConversionRequest) : Except ConversionFault Text :=
  match request.source with
  | some format => .ok format
  | none =>
    match request.registry.detect? request.input with
    | some format => .ok format
    | none => .error (.unknownFormat request.input)

/-- The format of the output, given that of the input. -/
def targetFormat (request : ConversionRequest) (source : Text) : Text :=
  request.target.getD (oppositeFormat source)

/-- The technique that the input's text makes, reshaped and held to the schema. -/
def technique
    (request : ConversionRequest)
    (source text : Text) : Except ConversionFault Technique :=
  match request.registry.read source text with
  | .error fault => .error (.format fault)
  | .ok read =>
    let technique := request.reshape.apply read
    match request.schema with
    | none => .ok technique
    | some schema =>
      match schema.validate technique with
      | .error fault => .error (.schema fault)
      | .ok () => .ok technique

/-- The technique that the input's text makes, and the text to write for it. -/
def compose
    (request : ConversionRequest)
    (source text : Text) : Except ConversionFault (Technique × Text) :=
  match request.technique source text with
  | .error fault => .error fault
  | .ok technique =>
    match request.registry.write (request.targetFormat source) technique with
    | .error fault => .error (.format fault)
    | .ok written => .ok (technique, written)

/-- The file to write, if there is one. -/
def outputPath?
    (request : ConversionRequest)
    (source : Text)
    (technique : Technique) : Option FilePath :=
  match request.destination with
  | .memory => none
  | .file path => some path
  | .besideInput =>
    some (outputBeside request.input (request.targetFormat source) technique.identifier)

/-- The note on a text that is ready to be written. -/
def note
    (request : ConversionRequest)
    (source : Text)
    (technique : Technique) : Log.Event :=
  ⟨.debug, "converted document".toList, [
    ("input", request.input),
    ("from", source),
    ("to", request.targetFormat source),
    ("tests", Text.ofNat technique.tests.length)]⟩

end ConversionRequest

/-- Make the directories above a path; a path without a parent needs none. -/
def makeParents (path : FilePath) : Action (Except FileFault Unit) :=
  match path.parent? with
  | none => .done (.ok ())
  | some parent =>
    if parent.isEmpty then .done (.ok ()) else .makeDirectories parent .done

/-- Write a text to a file, with the directories above it. -/
def writeFile (path : FilePath) (text : Text) : Action (Except ConversionFault FilePath) := do
  match ← makeParents path with
  | .error fault => return .error (.file path fault)
  | .ok () =>
    .writeText path text fun answer =>
      .done (match answer with
        | .error fault => .error (.file path fault)
        | .ok () => .ok path)

/-- Bring a text to the destination of the request. -/
def deliver
    (request : ConversionRequest)
    (source : Text)
    (technique : Technique)
    (text : Text) : Action (Except ConversionFault Converted) :=
  match request.outputPath? source technique with
  | none => .done (.ok ⟨technique.identifier, .text text⟩)
  | some path => do
    match ← writeFile path text with
    | .error fault => return .error fault
    | .ok written => return .ok ⟨technique.identifier, .file written⟩

/-- Carry a conversion out. -/
def convert (request : ConversionRequest) : Action (Except ConversionFault Converted) :=
  match request.sourceFormat with
  | .error fault => .done (.error fault)
  | .ok source =>
    .readText request.input fun answer =>
      match answer with
      | .error fault => .done (.error (.file request.input fault))
      | .ok text => do
        Action.logAll (request.registry.notes source text)
        match request.compose source text with
        | .error fault => return .error fault
        | .ok (technique, written) =>
          Action.log (request.note source technique)
          deliver request source technique written

end TechniquePages
