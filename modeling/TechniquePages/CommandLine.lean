import TechniquePages.CommandLine.Invocation
import TechniquePages.Corpus
import TechniquePages.Settings

/-!
# The command line

A run reads its arguments, then its settings, and then carries the command
out.  It ends with a status: zero if all went well, one if something failed,
two if the arguments make no sense.  Whatever ends a run early is said on the
standard error output.

Settings come from a file in the working directory, from a file that the
arguments name, and from flags, the later ones winning.  Flags can only switch
something on.
-/

namespace TechniquePages.CommandLine

/-- How a run ends. -/
abbrev Status := Nat

/-- Put a text on the standard output. -/
def say (text : Text) : Action Unit :=
  Action.emit (.standard text)

/-- Put a line on the standard error output. -/
def complain (line : Text) : Action Unit :=
  Action.emit (.standardError (line ++ ['\n']))

/-- End the run with an error. -/
def fail (message : Text) : Action Status := do
  complain ("Error: ".toList ++ message)
  return 1

/-- The line of a format in the list of formats. -/
def formatLine (format : Format) : Text :=
  "  ".toList ++ format.name ++ List.replicate (10 - format.name.length) ' ' ++
    ' ' :: format.description ++ " (.".toList ++
    Text.joinWith ", .".toList format.extensions ++ ")\n".toList

/-- The text that lists the formats of a registry. -/
def formatList (registry : Registry) : Text :=
  "Available formats:\n\n".toList ++
    registry.names.flatMap fun name =>
      match registry.get name with
      | .ok format => formatLine format
      | .error _ => []

/-- The name of the settings file in the working directory. -/
def projectFile : FilePath := "atomic.toml".toList

/--
The layers of settings: the file in the working directory, the file that the user names,
and the flags.
-/
def layers (choices : CommonChoices) : List Settings.Layer :=
  let file := choices.settingsFile.toList.map fun path => Settings.Layer.file path true
  let truth (chosen : Bool) (key : String) : List Settings.Layer :=
    if chosen then [.choice key.toList (.boolean true)] else []
  let schema := choices.schema.toList.map fun path =>
    Settings.Layer.choice "convert.schema".toList (.string path)
  .file projectFile false :: file ++
    truth choices.listArguments "convert.restructure_arguments" ++
    truth choices.shareProcedureKey "convert.unify_executor" ++ schema

/-- The level of the events to show; flags for it win over the settings. -/
def logLevel? (verbosity : Nat) (settings : Settings) : Option Log.Level :=
  match verbosity with
  | 0 => Log.Level.ofText? settings.level
  | 1 => some .info
  | 2 => some .debug
  | _ => some .trace

/-- The schema that the settings choose, if they choose one. -/
def loadSchema (settings : Settings) : Action (Except SchemaFault (Option Schema)) :=
  match settings.schemaPath? with
  | none => return .ok none
  | some path => do
    match ← Schema.load path with
    | .error fault => return .error fault
    | .ok schema => return .ok (some schema)

/-- The first of the formats that the registry does not know. -/
def unknownFormat? (registry : Registry) (names : List Text) : Option FormatFault :=
  names.findSome? fun name =>
    match registry.get name with
    | .ok _ => none
    | .error fault => some fault

/-- Where the output of a conversion goes. -/
def destination (output : Option FilePath) (toStandardOutput : Bool) : Destination :=
  if toStandardOutput then .memory
  else
    match output with
    | some path => .file path
    | none => .besideInput

/-- Say what a conversion has made. -/
def present (converted : Converted) : Action Status := do
  match converted.artifact with
  | .text text => say text
  | .file path =>
    Action.log ⟨.info, "wrote ".toList ++ converted.identifier, [("output", path)]⟩
  return 0

/-- Convert one document.  Formats and schema are looked at before the document is. -/
def runConvert
    (settings : Settings)
    (input : FilePath)
    (source target : Option Text)
    (destination : Destination) : Action Status := do
  let registry := Registry.builtIn settings.layout
  match unknownFormat? registry (source.toList ++ target.toList) with
  | some fault => fail fault.message
  | none =>
    match ← loadSchema settings with
    | .error fault => fail fault.message
    | .ok schema =>
      let request : ConversionRequest :=
        ⟨input, source, target, destination, settings.reshape, schema, settings.layout⟩
      match ← TechniquePages.convert request with
      | .error fault => fail fault.message
      | .ok converted => present converted

/-- Convert the documents of a corpus. -/
def runCorpus
    (settings : Settings)
    (directory : FilePath)
    (outDirectory : Option FilePath) : Action Status := do
  match ← loadSchema settings with
  | .error fault => fail fault.message
  | .ok schema =>
    if ← Action.isDirectory directory .done then
      let report ← runBatch directory ⟨outDirectory, settings.reshape, schema, settings.layout⟩
      let failed := report.failures.length
      if failed = 0 then
        say ("Converted ".toList ++ Text.ofNat report.converted ++ " file(s).\n".toList)
        return 0
      else
        complain (Text.ofNat failed ++ " file(s) failed to convert.".toList)
        return 1
    else fail ("'".toList ++ directory ++ "' is not a directory".toList)

/-- Carry a command out; without one there is nothing to do. -/
def runCommand (settings : Settings) : Option Command → Action Status
  | none => do
    complain "Unknown subcommand. Use --help for usage information.".toList
    return 1
  | some (.convert input source target output toStandardOutput) =>
    runConvert settings input source target (destination output toStandardOutput)
  | some (.batch directory outDirectory) => runCorpus settings directory outDirectory

/-- Carry out what the user asks for. -/
def runInvocation (invocation : Invocation) : Action Status :=
  if invocation.common.listFormats then do
    say (formatList (.builtIn .spread))
    return 0
  else do
    match ← Settings.load (layers invocation.common) with
    | .error fault => fail ("Failed to load configuration: ".toList ++ fault.message)
    | .ok settings =>
      match logLevel? invocation.common.verbosity settings with
      | none =>
        fail ("Invalid log level '".toList ++ settings.level ++ "' in configuration".toList)
      | some level => (runCommand settings invocation.command).limitLog level

/-- The status of a run whose arguments make no sense. -/
def usageStatus : Status := 2

/-- Carry out what the arguments ask for. -/
def run (arguments : List Text) : Action Status :=
  match Invocation.ofArguments arguments with
  | .ok invocation => runInvocation invocation
  | .error .help => do
    say helpText
    return 0
  | .error .version => do
    say versionText
    return 0
  | .error (.usage fault) => do
    complain ("error: ".toList ++ fault.message)
    return usageStatus

end TechniquePages.CommandLine
