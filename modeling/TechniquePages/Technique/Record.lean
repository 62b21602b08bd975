import TechniquePages.Json.Value
import TechniquePages.Technique

/-!
# Technique records

A record is the JSON value of a technique.  Its members stand in a fixed
order, and a member whose value is absent, or a test's empty list of
dependencies, is left out.

An executor is one flat object.  Its procedure stands under `procedure` when
the shared key is chosen, and otherwise under `steps` or `command`.
-/

namespace TechniquePages

open Json (booleanText)

/-- A member that is always written. -/
def Json.always (key : String) (value : Json) : List (Text × Json) :=
  [(key.toList, value)]

/-- A member that is written if its text is present. -/
def Json.ifPresent (key : String) : Option Text → List (Text × Json)
  | none => []
  | some text => [(key.toList, .string text)]

/-- The members of an argument that do not name it. -/
def Argument.detailMembers (argument : Argument) : List (Text × Json) :=
  Json.ifPresent "description" argument.description ++
    Json.ifPresent "type" argument.type ++
    Json.ifPresent "default" argument.value

/-- The record of an argument in a list. -/
def Argument.toJson (argument : Argument) : Json :=
  .object (Json.always "arg_name" (.string argument.name) ++ argument.detailMembers)

/-- The record of a test's arguments. -/
def Arguments.toJson (arguments : Arguments) : Json :=
  match arguments.layout with
  | .keyed =>
    .object (arguments.entries.map fun argument =>
      (argument.name, .object argument.detailMembers))
  | .listed => .array (arguments.entries.map Argument.toJson)

/-- The key under which the procedure is stored. -/
def Executor.procedureKey (executor : Executor) : String :=
  match executor.key, executor.kind with
  | .shared, _ => "procedure"
  | .separate, .manual => "steps"
  | .separate, .command _ _ => "command"

/-- The record of an executor. -/
def Executor.toJson (executor : Executor) : Json :=
  .object
    (Json.always "name" (.string executor.name) ++
      Json.always "elevation_required" (.boolean executor.elevated) ++
      Json.always executor.procedureKey (.string executor.procedure) ++
      Json.ifPresent "cleanup_command" executor.cleanup?)

/-- The record of a dependency; its check is written even if it is empty. -/
def Dependency.toJson (dependency : Dependency) : Json :=
  .object
    (Json.always "description" (.string dependency.description) ++
      Json.always "prereq_command" (.string dependency.check) ++
      Json.ifPresent "get_prereq_command" dependency.get)

/-- The member that holds a test's dependencies, if it has any. -/
def AtomicTest.dependencyMembers (test : AtomicTest) : List (Text × Json) :=
  match test.dependencies with
  | [] => []
  | dependencies => Json.always "dependencies" (.array (dependencies.map Dependency.toJson))

/-- The record of a test; its arguments are written even if there are none. -/
def AtomicTest.toJson (test : AtomicTest) : Json :=
  .object
    (Json.always "name" (.string test.name) ++
      Json.always "description" (.string test.description) ++
      Json.always "supported_platforms" (.array (test.platforms.map .string)) ++
      Json.always "executor" test.executor.toJson ++
      Json.always "input_arguments" test.arguments.toJson ++
      test.dependencyMembers ++
      Json.ifPresent "dependency_executor_name" test.dependencyExecutor ++
      Json.ifPresent "auto_generated_guid" test.guid)

/-- The record of a technique as a JSON value. -/
def Technique.toJson (technique : Technique) : Json :=
  .object
    (Json.always "attack_technique" (.string technique.identifier) ++
      Json.always "display_name" (.string technique.name) ++
      Json.ifPresent "description" technique.description ++
      Json.always "atomic_tests" (.array (technique.tests.map AtomicTest.toJson)))

/-- How a record is laid out as text. -/
inductive RecordLayout where
  /-- One member a line, and a line feed at the end. -/
  | spread
  /-- One line. -/
  | compact
  deriving DecidableEq

/-- The record of a technique as text. -/
def Technique.record
    (layout : RecordLayout)
    (technique : Technique) : Text :=
  match layout with
  | .spread => technique.toJson.spread ++ ['\n']
  | .compact => technique.toJson.compact

end TechniquePages
