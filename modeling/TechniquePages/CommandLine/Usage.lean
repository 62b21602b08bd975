import TechniquePages.Text

/-!
# Flags and usage

The flags of the command line by their meaning.  A flag has a long form and
may have a letter; it stands alone or takes one value.  Where a flag may stand
depends on the scope: before a command, or after one.

Beside the flags stands what the program says about itself, and about
arguments that it cannot make sense of.
-/

namespace TechniquePages.CommandLine

/-- A flag by its meaning. -/
inductive Flag where
  | listFormats
  | settingsFile
  | schema
  | listArguments
  | shareProcedureKey
  | verbose
  | help
  | version
  | source
  | target
  | output
  | standardOutput
  | outDirectory
  deriving DecidableEq

namespace Flag

/-- The long form after its two dashes. -/
def long : Flag → Text
  | .listFormats => "list-formats".toList
  | .settingsFile => "config".toList
  | .schema => "schema".toList
  | .listArguments => "restruct-args".toList
  | .shareProcedureKey => "restruct-executor".toList
  | .verbose => "verbose".toList
  | .help => "help".toList
  | .version => "version".toList
  | .source => "from".toList
  | .target => "to".toList
  | .output => "output".toList
  | .standardOutput => "stdout".toList
  | .outDirectory => "out-dir".toList

/-- The letter after a single dash. -/
def letter? : Flag → Option Char
  | .verbose => some 'v'
  | .help => some 'h'
  | .version => some 'V'
  | .output => some 'o'
  | _ => none

/-- A value follows the flag. -/
def takesValue : Flag → Bool
  | .settingsFile => true
  | .schema => true
  | .source => true
  | .target => true
  | .output => true
  | .outDirectory => true
  | _ => false

/-- The flag may be given several times. -/
def mayRepeat : Flag → Bool
  | .verbose => true
  | _ => false

end Flag

/-- Where arguments stand: before any command, or after one. -/
inductive Scope where
  | top
  | convert
  | batch
  deriving DecidableEq

namespace Scope

/-- The flags that may stand anywhere. -/
def common : List Flag :=
  [.listFormats, .settingsFile, .schema, .listArguments, .shareProcedureKey, .verbose, .help]

/-- The flags that may stand in a scope. -/
def flags : Scope → List Flag
  | .top => .version :: common
  | .convert => common ++ [.source, .target, .output, .standardOutput]
  | .batch => common ++ [.outDirectory]

/-- How many plain arguments a scope takes. -/
def capacity : Scope → Nat
  | .top => 0
  | .convert => 1
  | .batch => 1

/-- The flag of a long form, if it may stand in the scope. -/
def long? (scope : Scope) (name : Text) : Option Flag :=
  scope.flags.find? fun flag => flag.long == name

/-- The flag of a letter, if it may stand in the scope. -/
def letter? (scope : Scope) (letter : Char) : Option Flag :=
  scope.flags.find? fun flag => flag.letter? == some letter

end Scope

/-! ## Usage -/

/-- Why arguments make no sense. -/
inductive UsageFault where
  | nothingGiven
  /-- A flag that the scope does not know, or a word that is no command. -/
  | unknownArgument (argument : Text)
  /-- A plain argument for which there is no room. -/
  | unexpectedArgument (argument : Text)
  | unexpectedValue (flag : Flag)
  | missingValue (flag : Flag)
  | repeated (flag : Flag)
  | conflict (first second : Flag)
  | missingArgument (name : Text)
  deriving DecidableEq

/-- A flag as the user writes it. -/
def Flag.shown (flag : Flag) : Text :=
  "--".toList ++ flag.long

/-- The wording of a fault. -/
def UsageFault.message : UsageFault → Text
  | .nothingGiven => "nothing to do".toList
  | .unknownArgument argument => "unknown argument '".toList ++ argument ++ "'".toList
  | .unexpectedArgument argument => "unexpected argument '".toList ++ argument ++ "'".toList
  | .unexpectedValue flag => flag.shown ++ " takes no value".toList
  | .missingValue flag => flag.shown ++ " needs a value".toList
  | .repeated flag => flag.shown ++ " may be given only once".toList
  | .conflict first second =>
    first.shown ++ " and ".toList ++ second.shown ++ " cannot be used together".toList
  | .missingArgument name => "the argument <".toList ++ name ++ "> is missing".toList

/-- The program's name and version. -/
def versionText : Text :=
  "atomic 0.1.0\n".toList

/-- A summary of the commands and flags. -/
def helpText : Text :=
  Text.joinLines [
    "Convert atomic test techniques between JSON and Markdown".toList,
    [],
    "Usage:".toList,
    "  atomic [convert] <input> [--from <format>] [--to <format>] [-o <file> | --stdout]".toList,
    "  atomic batch <dir> [--out-dir <dir>]".toList,
    "  atomic --list-formats".toList,
    [],
    "Options:".toList,
    "  --config <path>      Read settings from a file".toList,
    "  --schema <path>      Hold every record to a JSON schema".toList,
    "  --restruct-args      Write arguments as a list".toList,
    "  --restruct-executor  Write every procedure under one key".toList,
    "  -v, --verbose        Report more; may be repeated".toList,
    []]

end TechniquePages.CommandLine
