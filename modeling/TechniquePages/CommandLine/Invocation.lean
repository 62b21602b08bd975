import TechniquePages.CommandLine.Usage
import TechniquePages.Files.Path

/-!
# Reading the command line

Arguments are read from left to right.  Flags and plain arguments may be mixed;
after two dashes alone everything is plain.  A flag that takes a value takes
it after an equals sign or from the next argument, which then may not begin
with a dash.  Letters may be joined behind one dash.

Flags that may stand anywhere are collected before and after the command, and
what is given after it wins.  A path in the place of a command asks for its
conversion.
-/

namespace TechniquePages.CommandLine

/-- Why reading ends before there is anything to run. -/
inductive Stop where
  | help
  | version
  | usage (fault : UsageFault)
  deriving DecidableEq

/-- The flags and plain arguments of a scope, in order. -/
structure Given where
  flags : List (Flag × Text)
  plain : List Text
  deriving DecidableEq

namespace Given

/-- No arguments so far. -/
def nothing : Given := ⟨[], []⟩

/-- The flag has been given. -/
def has (given : Given) (flag : Flag) : Bool :=
  given.flags.any fun (other, _) => other == flag

/-- How often the flag has been given. -/
def count (given : Given) (flag : Flag) : Nat :=
  (given.flags.filter fun (other, _) => other == flag).length

/-- The value that was given with a flag. -/
def value? (given : Given) (flag : Flag) : Option Text :=
  given.flags.lookup flag

/--
Take a flag with its value, an empty one if it takes none.  Asking for help or the
version ends the reading.
-/
def takeFlag (given : Given) (flag : Flag) (value : Text) : Except Stop Given :=
  match flag with
  | .help => .error .help
  | .version => .error .version
  | flag =>
    if given.has flag && !flag.mayRepeat then .error (.usage (.repeated flag))
    else .ok { given with flags := given.flags ++ [(flag, value)] }

/-- Take a plain argument, if the scope has room for it. -/
def takePlain (scope : Scope) (given : Given) (argument : Text) : Except Stop Given :=
  if given.plain.length < scope.capacity then
    .ok { given with plain := given.plain ++ [argument] }
  else .error (.usage (.unexpectedArgument argument))

end Given

/-- A flag that still waits for its value, with what has been given. -/
structure Progress where
  waiting : Option Flag
  given : Given

/-- Take letters that are joined behind one dash. -/
def takeLetters (scope : Scope) (given : Given) : Text → Except Stop Progress
  | [] => .ok ⟨none, given⟩
  | letter :: rest =>
    match scope.letter? letter with
    | none => .error (.usage (.unknownArgument ['-', letter]))
    | some flag =>
      if flag.takesValue then
        match rest with
        | [] => .ok ⟨some flag, given⟩
        | '=' :: value => (given.takeFlag flag value).map (⟨none, ·⟩)
        | value => (given.takeFlag flag value).map (⟨none, ·⟩)
      else
        match given.takeFlag flag [] with
        | .error stop => .error stop
        | .ok given => takeLetters scope given rest

/-- Take a long form, which may hold a value after an equals sign. -/
def takeLong (scope : Scope) (given : Given) (body : Text) : Except Stop Progress :=
  let name := body.takeWhile (· != '=')
  match scope.long? name, body.dropWhile (· != '=') with
  | none, _ => .error (.usage (.unknownArgument ("--".toList ++ body)))
  | some flag, [] =>
    if flag.takesValue then .ok ⟨some flag, given⟩
    else (given.takeFlag flag []).map (⟨none, ·⟩)
  | some flag, _ :: value =>
    if flag.takesValue then (given.takeFlag flag value).map (⟨none, ·⟩)
    else .error (.usage (.unexpectedValue flag))

/-- Take an argument that may hold flags; a dash alone is plain. -/
def takeArgument (scope : Scope) (given : Given) (argument : Text) : Except Stop Progress :=
  match argument with
  | '-' :: '-' :: body => takeLong scope given body
  | '-' :: letter :: rest => takeLetters scope given (letter :: rest)
  | plain => (given.takePlain scope plain).map (⟨none, ·⟩)

/-- An argument that is read as a flag begins with a dash and goes on. -/
def looksLikeFlag : Text → Bool
  | '-' :: _ :: _ => true
  | _ => false

/-- The words that name commands. -/
def commandWords : List Text := ["convert".toList, "batch".toList, "help".toList]

/-- What stands before a command, and the command with what follows it. -/
structure Opening where
  given : Given
  command : Option (Text × List Text)

/-- Take all arguments as plain ones. -/
def takeAllPlain (scope : Scope) (given : Given) : List Text → Except Stop Opening
  | [] => .ok ⟨given, none⟩
  | argument :: rest =>
    match given.takePlain scope argument with
    | .error stop => .error stop
    | .ok given => takeAllPlain scope given rest

/-- Read the arguments of a scope; before a command, reading ends at its word. -/
def takeAll (scope : Scope) (progress : Progress) : List Text → Except Stop Opening
  | [] =>
    match progress.waiting with
    | some flag => .error (.usage (.missingValue flag))
    | none => .ok ⟨progress.given, none⟩
  | argument :: rest =>
    match progress.waiting with
    | some flag =>
      if looksLikeFlag argument then .error (.usage (.missingValue flag))
      else
        match progress.given.takeFlag flag argument with
        | .error stop => .error stop
        | .ok given => takeAll scope ⟨none, given⟩ rest
    | none =>
      if scope = .top && commandWords.contains argument then
        .ok ⟨progress.given, some (argument, rest)⟩
      else if argument = "--".toList then takeAllPlain scope progress.given rest
      else
        match takeArgument scope progress.given argument with
        | .error stop => .error stop
        | .ok progress => takeAll scope progress rest

/-- What may be chosen for any command. -/
structure CommonChoices where
  listFormats : Bool
  settingsFile : Option FilePath
  schema : Option FilePath
  listArguments : Bool
  shareProcedureKey : Bool
  verbosity : Nat
  deriving DecidableEq

/-- A command with its own choices. -/
inductive Command where
  | convert
      (input : FilePath)
      (source target : Option Text)
      (output : Option FilePath)
      (toStandardOutput : Bool)
  | batch (directory : FilePath) (outDirectory : Option FilePath)
  deriving DecidableEq

/-- What the user asks for. -/
structure Invocation where
  common : CommonChoices
  command : Option Command
  deriving DecidableEq

/-- The common choices; what is given after the command wins. -/
def CommonChoices.ofGiven (before after : Given) : CommonChoices where
  listFormats := before.has .listFormats || after.has .listFormats
  settingsFile := (after.value? .settingsFile).or (before.value? .settingsFile)
  schema := (after.value? .schema).or (before.value? .schema)
  listArguments := before.has .listArguments || after.has .listArguments
  shareProcedureKey := before.has .shareProcedureKey || after.has .shareProcedureKey
  verbosity := if after.has .verbose then after.count .verbose else before.count .verbose

/-- The conversion that arguments ask for. -/
def convertCommand (given : Given) : Except Stop Command :=
  if given.has .output && given.has .standardOutput then
    .error (.usage (.conflict .output .standardOutput))
  else
    match given.plain with
    | [] => .error (.usage (.missingArgument "input".toList))
    | input :: _ =>
      .ok (.convert input (given.value? .source) (given.value? .target) (given.value? .output)
        (given.has .standardOutput))

/-- The batch that arguments ask for. -/
def batchCommand (given : Given) : Except Stop Command :=
  match given.plain with
  | [] => .error (.usage (.missingArgument "dir".toList))
  | directory :: _ => .ok (.batch directory (given.value? .outDirectory))

/-- Read what follows a command's word. -/
def readCommand
    (before : Given)
    (scope : Scope)
    (command : Given → Except Stop Command)
    (arguments : List Text) : Except Stop Invocation := do
  let opening ← takeAll scope ⟨none, .nothing⟩ arguments
  let command ← command opening.given
  .ok ⟨.ofGiven before opening.given, some command⟩

/-- Asking for help takes the word of one command at most. -/
def readHelp : List Text → Stop
  | [] => .help
  | [word] => if commandWords.contains word then .help else .usage (.unknownArgument word)
  | word :: next :: _ =>
    .usage (.unknownArgument (if commandWords.contains word then next else word))

/-- Read arguments that have to begin with a flag or the word of a command. -/
def readStrict (arguments : List Text) : Except Stop Invocation := do
  let opening ← takeAll .top ⟨none, .nothing⟩ arguments
  match opening.command with
  | none =>
    if opening.given.flags.isEmpty then .error (.usage .nothingGiven)
    else .ok ⟨.ofGiven opening.given .nothing, none⟩
  | some (word, rest) =>
    if word = "convert".toList then readCommand opening.given .convert convertCommand rest
    else if word = "batch".toList then readCommand opening.given .batch batchCommand rest
    else .error (readHelp rest)

/-- The arguments begin with neither a flag nor the word of a command. -/
def beginsWithPath (arguments : List Text) : Bool :=
  match arguments with
  | [] => false
  | first :: _ => first.head? != some '-' && !commandWords.contains first

/-- Read arguments; a path in the place of a command asks for its conversion. -/
def Invocation.ofArguments (arguments : List Text) : Except Stop Invocation :=
  if beginsWithPath arguments then readStrict ("convert".toList :: arguments)
  else readStrict arguments

end TechniquePages.CommandLine
