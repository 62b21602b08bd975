import TechniquePages.Files.Path
import TechniquePages.Page.Reading
import TechniquePages.Page.Writing
import TechniquePages.Technique.Record.Reading

/-!
# Formats

A format is a way to write techniques down: it has a name, the extensions of
its files, and says which directions it supports.  A direction that a format
leaves out answers that it is not supported.

Two formats are built in: the page and the record.
-/

namespace TechniquePages

/-- What a format may be asked for: to read a technique, or to write one. -/
inductive Direction where
  | reading
  | writing
  deriving DecidableEq

/-- Why a format gives no result. -/
inductive FormatFault where
  | unknown (name : Text)
  | page (fault : Page.Fault)
  | record (fault : Json.Fault)
  | unsupported (name : Text) (direction : Direction)
  deriving DecidableEq

/-- The word for a direction in messages. -/
def Direction.word : Direction → Text
  | .reading => "parsing".toList
  | .writing => "serialization".toList

/-- The wording of a fault. -/
def FormatFault.message : FormatFault → Text
  | .unknown name => "Format '".toList ++ name ++ "' not found".toList
  | .page fault => "Parse error: ".toList ++ fault.message
  | .record fault => "Invalid JSON record: ".toList ++ fault.message
  | .unsupported name direction =>
    "Operation not supported: Format '".toList ++ name ++ "' does not support ".toList ++
      direction.word

/-- A way to write techniques down. -/
structure Format where
  name : Text
  description : Text
  extensions : List Text
  reads : Bool
  writes : Bool
  read : Text → Except FormatFault Technique
  /-- What reading reports. -/
  notes : Text → List Log.Event
  write : Technique → Except FormatFault Text

namespace Format

/-- A format of which only the name is given; it supports nothing. -/
def bare (name : Text) : Format where
  name := name
  description := []
  extensions := []
  reads := false
  writes := false
  read _ := .error (.unsupported name .reading)
  notes _ := []
  write _ := .error (.unsupported name .writing)

/-- The page. -/
def markdown : Format where
  name := "markdown".toList
  description := "Atomic test Markdown documents".toList
  extensions := ["md".toList, "markdown".toList]
  reads := true
  writes := true
  read text := (Page.read text).mapError .page
  notes := Page.notes
  write technique := .ok (Page.write technique)

/-- The record in a layout. -/
def json (layout : RecordLayout) : Format where
  name := "json".toList
  description := "Technique JSON records".toList
  extensions := ["json".toList]
  reads := true
  writes := true
  read text := (Technique.ofRecord text).mapError .record
  notes _ := []
  write technique := .ok (technique.record layout)

end Format

/-!
## The registry of formats

A registry holds formats by name; a format takes the place of the one with its
name.  Reading and writing through the registry first ask for the format and
then whether it supports the direction.
-/

/-- Formats by name, in the order in which the names came. -/
structure Registry where
  formats : List Format

namespace Registry

/-- No formats. -/
def empty : Registry := ⟨[]⟩

/-- Put a format in the place of the one with its name, or at the end. -/
def place (format : Format) : List Format → List Format
  | [] => [format]
  | present :: rest =>
    if present.name = format.name then format :: rest
    else present :: place format rest

/-- Add a format; one with its name gives way. -/
def register (registry : Registry) (format : Format) : Registry :=
  ⟨place format registry.formats⟩

/-- The built-in formats, records in a layout. -/
def builtIn (layout : RecordLayout) : Registry :=
  (empty.register .markdown).register (.json layout)

/-- The format of a name. -/
def get (registry : Registry) (name : Text) : Except FormatFault Format :=
  match registry.formats.find? fun format => format.name == name with
  | some format => .ok format
  | none => .error (.unknown name)

/-- A format of the name is there. -/
def has (registry : Registry) (name : Text) : Bool :=
  registry.formats.any fun format => format.name == name

/-- Put a name at its place in order. -/
def insertName (name : Text) : List Text → List Text
  | [] => [name]
  | present :: rest =>
    if Text.precedes name present then name :: present :: rest
    else present :: insertName name rest

/-- The names of the formats in code point order. -/
def names (registry : Registry) : List Text :=
  registry.formats.foldl (fun names format => insertName format.name names) []

/-- The name of the format whose extension a file has. -/
def detect? (registry : Registry) (file : FilePath) : Option Text := do
  let extension ← file.extension?
  let format ← registry.formats.find? fun format => format.extensions.contains extension
  some format.name

/-- Read a text in the format of a name. -/
def read (registry : Registry) (name text : Text) : Except FormatFault Technique :=
  match registry.get name with
  | .error fault => .error fault
  | .ok format =>
    if format.reads then format.read text else .error (.unsupported name .reading)

/-- What reading reports. -/
def notes (registry : Registry) (name text : Text) : List Log.Event :=
  match registry.get name with
  | .error _ => []
  | .ok format => if format.reads then format.notes text else []

/-- Write a technique in the format of a name. -/
def write
    (registry : Registry)
    (name : Text)
    (technique : Technique) : Except FormatFault Text :=
  match registry.get name with
  | .error fault => .error fault
  | .ok format =>
    if format.writes then format.write technique else .error (.unsupported name .writing)

example (layout : RecordLayout) :
    (builtIn layout).names = ["json".toList, "markdown".toList] := rfl

end Registry

end TechniquePages
