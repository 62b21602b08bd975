import TechniquePages.Text

/-!
# Techniques and their tests

A technique is a named way of attack together with the tests that exercise it.
A test says on which platforms it runs, which inputs it takes, what has to be
in place before it, and how it is carried out: by hand, or by a command given
to an interpreter.

Two parts of a test have two written shapes.  Its arguments are keyed by name
or listed one by one, and its procedure is stored under a key of its kind or
under a shared one.  The shape is part of the value, so that a record is
written back as it was read.
-/

namespace TechniquePages

/-- One input of a test. -/
structure Argument where
  name : Text
  description : Option Text
  type : Option Text
  value : Option Text
  deriving DecidableEq

/-- How arguments are written: an object keyed by name, or a list. -/
inductive ArgumentLayout where
  /-- Names are the keys, so a name replaces an equal one. -/
  | keyed
  /-- Every argument says its name, and names may be repeated. -/
  | listed
  deriving DecidableEq

/-- The arguments of a test, in document order. -/
structure Arguments where
  layout : ArgumentLayout
  entries : List Argument
  deriving DecidableEq

/-- Who carries a test out. -/
inductive ExecutorKind where
  | manual
  | command (name : Text) (cleanup : Option Text)
  deriving DecidableEq

/-- The key of a procedure: one for each kind of executor, or one for all. -/
inductive ProcedureKey where
  | separate
  | shared
  deriving DecidableEq

/-- How a test is carried out. -/
structure Executor where
  kind : ExecutorKind
  elevated : Bool
  /-- The steps of a manual test, the command of any other. -/
  procedure : Text
  key : ProcedureKey
  deriving DecidableEq

/-- Something a test needs, how to check for it and how to get it. -/
structure Dependency where
  description : Text
  check : Text
  get : Option Text
  deriving DecidableEq

/-- One test of a technique. -/
structure AtomicTest where
  name : Text
  description : Text
  platforms : List Text
  executor : Executor
  arguments : Arguments
  dependencies : List Dependency
  /-- The interpreter of the dependency commands, if it is not the test's own. -/
  dependencyExecutor : Option Text
  guid : Option Text
  deriving DecidableEq

/-- A technique with its tests in order. -/
structure Technique where
  identifier : Text
  name : Text
  description : Option Text
  tests : List AtomicTest
  deriving DecidableEq

namespace Arguments

/-- No arguments, keyed. -/
def empty : Arguments := ⟨.keyed, []⟩

/-- The argument of a name; the first one, if a list repeats it. -/
def get? (arguments : Arguments) (name : Text) : Option Argument :=
  arguments.entries.find? fun argument => argument.name == name

/-- Put an argument in the place of the first one with its name, or at the end. -/
def place (argument : Argument) : List Argument → List Argument
  | [] => [argument]
  | present :: rest =>
    if present.name = argument.name then argument :: rest
    else present :: place argument rest

/--
Add an argument.  A keyed name is unique, so there the new argument takes the
place of the one with its name; a list keeps both.
-/
def insert (arguments : Arguments) (argument : Argument) : Arguments :=
  match arguments.layout with
  | .keyed => { arguments with entries := place argument arguments.entries }
  | .listed => { arguments with entries := arguments.entries ++ [argument] }

/-- The same arguments, listed one by one. -/
def toListed (arguments : Arguments) : Arguments :=
  { arguments with layout := .listed }

/--
The same arguments, keyed by name.  Names are not looked at here: one that the list
repeats stays repeated.
-/
def toKeyed (arguments : Arguments) : Arguments :=
  { arguments with layout := .keyed }

end Arguments

namespace Executor

/-- The name that stands for a test carried out by hand. -/
def manualName : Text := "manual".toList

/-- A test carried out by hand. -/
def manual (steps : Text) : Executor :=
  ⟨.manual, false, steps, .separate⟩

/-- A test carried out by an interpreter. -/
def command (name body : Text) : Executor :=
  ⟨.command name none, false, body, .separate⟩

/-- The interpreter's name, or the name that stands for a test carried out by hand. -/
def name (executor : Executor) : Text :=
  match executor.kind with
  | .manual => manualName
  | .command name _ => name

/-- The test is carried out by hand. -/
def isManual (executor : Executor) : Bool :=
  match executor.kind with
  | .manual => true
  | .command _ _ => false

/-- The command that undoes the test. -/
def cleanup? (executor : Executor) : Option Text :=
  match executor.kind with
  | .manual => none
  | .command _ cleanup => cleanup

/-- Attach a cleanup command; a test carried out by hand has none. -/
def withCleanup (executor : Executor) (cleanup : Text) : Executor :=
  match executor.kind with
  | .manual => executor
  | .command name _ => { executor with kind := .command name (some cleanup) }

/-- Ask for elevated rights. -/
def elevate (executor : Executor) : Executor :=
  { executor with elevated := true }

end Executor

/-- A test of which only the name and the executor are known. -/
def AtomicTest.bare (name : Text) (executor : Executor) : AtomicTest :=
  ⟨name, [], [], executor, .empty, [], none, none⟩

/-- The interpreter of the dependency commands, which is the test's own unless it differs. -/
def AtomicTest.dependencyInterpreter (test : AtomicTest) : Text :=
  test.dependencyExecutor.getD test.executor.name

/-- A technique without a description and without tests. -/
def Technique.bare (identifier name : Text) : Technique :=
  ⟨identifier, name, none, []⟩

/-!
## Reshaping

The two written shapes of a technique may be chosen after reading it: list the
arguments, and store every procedure under the shared key.  Reshaping never
fails and changes nothing else.
-/

namespace Technique

/-- Change every test, and nothing beside the tests. -/
def mapTests (technique : Technique) (change : AtomicTest → AtomicTest) : Technique :=
  { technique with tests := technique.tests.map change }

/-- List the arguments of every test. -/
def listArguments (technique : Technique) : Technique :=
  technique.mapTests fun test => { test with arguments := test.arguments.toListed }

/-- Key the arguments of every test by name. -/
def keyArguments (technique : Technique) : Technique :=
  technique.mapTests fun test => { test with arguments := test.arguments.toKeyed }

/-- Store the procedure of every test under the shared key. -/
def shareProcedureKey (technique : Technique) : Technique :=
  technique.mapTests fun test =>
    { test with executor := { test.executor with key := .shared } }

end Technique

/-- Which shapes to choose after reading. -/
structure Reshape where
  listArguments : Bool
  shareProcedureKey : Bool
  deriving DecidableEq

namespace Reshape

/-- Choose nothing. -/
def none : Reshape := ⟨false, false⟩

/-- Nothing is chosen. -/
def isEmpty (reshape : Reshape) : Bool :=
  !reshape.listArguments && !reshape.shareProcedureKey

/-- Apply what is chosen, the arguments first. -/
def apply (reshape : Reshape) (technique : Technique) : Technique :=
  let listed :=
    if reshape.listArguments then technique.listArguments else technique
  if reshape.shareProcedureKey then listed.shareProcedureKey else listed

end Reshape

end TechniquePages
