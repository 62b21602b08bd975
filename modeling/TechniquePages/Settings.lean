import TechniquePages.Files.Action
import TechniquePages.Settings.Merge
import TechniquePages.Technique.Record
import TechniquePages.Toml.Reading

/-!
# Settings

What a user can choose once for many runs: how techniques are reshaped and
laid out, which schema they are held to, and how much a run reports.

Settings come in layers.  The built-in ones lie at the bottom, files are put
over them in their order, and single choices lie over every file wherever they
stand among the layers.  What the layers amount to is then read by type, which
fails on a setting that its name does not allow and passes over names that
mean nothing.
-/

namespace TechniquePages

/-- What a user can choose once for many runs. -/
structure Settings where
  reshape : Reshape
  /-- The path of a schema; blanks alone choose none. -/
  schema : Text
  layout : RecordLayout
  /-- The name of the log level. -/
  level : Text
  deriving DecidableEq

namespace Settings

/-- What holds where nothing is chosen. -/
def builtIn : Settings := ⟨.none, [], .spread, "warn".toList⟩

/-- The path of the schema, if one is chosen. -/
def schemaPath? (settings : Settings) : Option FilePath :=
  let path := settings.schema.trim
  if path.isEmpty then none else some path

/-- A truth value without an origin. -/
def chosen (value : Bool) : Setting :=
  .scalar (.boolean value) none

/-- A text without an origin. -/
def written (value : Text) : Setting :=
  .scalar (.string value) none

/-- Settings as a table of sections. -/
def toSetting (settings : Settings) : Setting :=
  .table [
    ("convert".toList, .table [
      ("restructure_arguments".toList, chosen settings.reshape.listArguments),
      ("unify_executor".toList, chosen settings.reshape.shareProcedureKey),
      ("schema".toList, written settings.schema)] none),
    ("output".toList, .table [("pretty".toList, chosen (settings.layout == .spread))] none),
    ("log".toList, .table [("level".toList, written settings.level)] none)] none

/-- The file that a setting was read from. -/
def originOf : Setting → Option FilePath
  | .absent => none
  | .scalar _ origin => origin
  | .list _ origin => origin
  | .table _ origin => origin

/-- The truth value of a word in lower case. -/
def truthOfWord? (word : Text) : Option Bool :=
  match String.ofList word with
  | "1" | "true" | "on" | "yes" => some true
  | "0" | "false" | "off" | "no" => some false
  | _ => none

/-- Read a setting as a truth value; `place` names it in messages. -/
def readTruth (place : Text) (setting : Setting) : Except SettingsFault Bool :=
  let refuse (found : SettingShape) : Except SettingsFault Bool :=
    .error (.wrongType found "a boolean".toList place (originOf setting))
  match setting with
  | .scalar (.boolean value) _ => .ok value
  | .scalar (.integer value) _ => .ok (value != 0)
  | .scalar (.double (.finite value)) _ => .ok (!value.isZero)
  | .scalar (.double _) _ => .ok true
  | .scalar (.string value) _ =>
    let word := Unicode.lower value
    match truthOfWord? word with
    | some value => .ok value
    | none => refuse (.scalar (.string word))
  | other => refuse other.shape

/-- Read a setting as a text; `place` names it in messages. -/
def readText (place : Text) (setting : Setting) : Except SettingsFault Text :=
  match setting with
  | .scalar value _ => .ok value.text
  | other => .error (.wrongType other.shape "a string".toList place (originOf other))

/-- A setting of a section: its name, and how it is read into the settings so far. -/
structure Entry where
  name : Text
  read : (place : Text) → Setting → Settings → Except SettingsFault Settings

/-- An entry that holds a truth value. -/
def Entry.truth (name : String) (set : Bool → Settings → Settings) : Entry where
  name := name.toList
  read place setting settings := (readTruth place setting).map fun value => set value settings

/-- An entry that holds a text. -/
def Entry.text (name : String) (set : Text → Settings → Settings) : Entry where
  name := name.toList
  read place setting settings := (readText place setting).map fun value => set value settings

/-- A section: its name, its title in messages, and its entries in order. -/
structure Section where
  name : Text
  title : Text
  entries : List Entry

/-- Read the entries of a section that the members of a table hold. -/
def Section.readTable
    (part : Section)
    (members : Setting.Members)
    (settings : Settings) : Except SettingsFault Settings := do
  let read ← part.entries.foldlM
    (fun settings entry =>
      match members.lookup entry.name with
      | some setting => entry.read (part.name ++ '.' :: entry.name) setting settings
      | none => .ok settings)
    settings
  match part.entries.find? fun entry => (members.lookup entry.name).isNone with
  | some entry => .error (.missingEntry entry.name)
  | none => .ok read

/-- Read entries in order from the items of a list. -/
def Section.readItems
    (part : Section) :
    (position : Nat) → List Entry → List Setting → Settings → Except SettingsFault Settings
  | _, [], _, settings => .ok settings
  | position, _ :: _, [], _ =>
    .error (.shortSection position part.title part.entries.length)
  | position, entry :: entries, setting :: rest, settings => do
    let place := part.name ++ '[' :: Text.ofNat position ++ [']']
    let settings ← entry.read place setting settings
    readItems part (position + 1) entries rest settings

/-- Read a section from a table, or from a list in the order of the entries. -/
def Section.read
    (part : Section)
    (setting : Setting)
    (settings : Settings) : Except SettingsFault Settings :=
  match setting with
  | .table members _ => part.readTable members settings
  | .list items _ => part.readItems 0 part.entries items settings
  | other => .error (.wrongSection other.shape part.title)

/-- The sections of the settings, each with its entries in order. -/
def sections : List Section := [
  ⟨"convert".toList, "ConvertConfig".toList, [
    .truth "restructure_arguments" fun value settings =>
      { settings with reshape := { settings.reshape with listArguments := value } },
    .truth "unify_executor" fun value settings =>
      { settings with reshape := { settings.reshape with shareProcedureKey := value } },
    .text "schema" fun value settings => { settings with schema := value }]⟩,
  ⟨"output".toList, "OutputConfig".toList, [
    .truth "pretty" fun value settings =>
      { settings with layout := if value then .spread else .compact }]⟩,
  ⟨"log".toList, "LogConfig".toList, [
    .text "level" fun value settings => { settings with level := value }]⟩]

/-- Read settings by type. -/
def ofSetting (setting : Setting) : Except SettingsFault Settings :=
  let members := (Setting.asTable setting).1
  sections.foldlM
    (fun settings part =>
      match members.lookup part.name with
      | some setting => part.read setting settings
      | none => .error (.missingEntry part.name))
    builtIn

example : ofSetting builtIn.toSetting = .ok builtIn := rfl

/-- A layer of settings: a file, or the choice of a single one. -/
inductive Layer where
  /-- A file of settings; one that is not required may be missing. -/
  | file (path : FilePath) (required : Bool)
  /-- A value for the setting that a key path names. -/
  | choice (key : Text) (value : Setting.Scalar)
  deriving DecidableEq

/-- The choices among the layers, unless a key is no key path. -/
def choices : List Layer → Except SettingsFault (List (KeyPath × Setting))
  | [] => .ok []
  | .file _ _ :: rest => choices rest
  | .choice key value :: rest =>
    match KeyPath.ofText? key with
    | none => .error (.badKey key)
    | some path => (choices rest).map ((path, .scalar value none) :: ·)

/-- The path with the extension of a TOML file behind its name. -/
def withTomlExtension? (path : FilePath) : Option FilePath := do
  let name ← path.fileName?
  some ((path.parent?.getD []).join (name ++ ".toml".toList))

/-- The path at which a file of settings is found. -/
def findFile (path : FilePath) : Action (Option FilePath) :=
  .isFile path fun found =>
    if found then .done (some path)
    else
      match withTomlExtension? path with
      | none => .done none
      | some other =>
        .isFile other fun found => .done (if found then some other else none)

/-- A path as messages show it: its parts, without those that say nothing. -/
def shownPath (path : FilePath) : FilePath :=
  let names := (FilePath.parts path).filterMap fun part =>
    match part with
    | .root => some []
    | .here => none
    | .up => some "..".toList
    | .name name => some name
  Text.joinWith ['/'] names

/-- The settings that the text of a file stands for; a byte order mark may precede it. -/
def membersOf (path : FilePath) (text : Text) : Except SettingsFault Setting.Members :=
  let body :=
    match text with
    | '\ufeff' :: rest => rest
    | _ => text
  let origin := shownPath path
  match Toml.read? body with
  | none => .error (.notToml origin)
  | some members => .ok (Setting.ofMembers origin members)

/-- Read a file of settings; one that is missing but not required has no members. -/
def readFile
    (path : FilePath)
    (required : Bool) : Action (Except SettingsFault Setting.Members) := do
  match ← findFile path with
  | none => return if required then .error (.missingFile path) else .ok []
  | some found =>
    .readRepaired found fun answer =>
      .done (match answer with
        | .error fault => if required then .error (.unreadable found fault) else .ok []
        | .ok text => membersOf found text)

/-- Put the files among the layers over a setting, in their order. -/
def mergeFiles : List Layer → Setting → Action (Except SettingsFault Setting)
  | [], setting => return .ok setting
  | .choice _ _ :: rest, setting => mergeFiles rest setting
  | .file path required :: rest, setting => do
    match ← readFile path required with
    | .error fault => return .error fault
    | .ok members => mergeFiles rest (setting.mergeFile members)

/-- The settings that layers amount to. -/
def load (layers : List Layer) : Action (Except SettingsFault Settings) :=
  match choices layers with
  | .error fault => return .error fault
  | .ok choices => do
    match ← mergeFiles layers builtIn.toSetting with
    | .error fault => return .error fault
    | .ok merged =>
      let chosen := choices.foldl
        (fun setting (path, value) => Setting.placeAt value path setting) merged
      return ofSetting chosen

end Settings

end TechniquePages
