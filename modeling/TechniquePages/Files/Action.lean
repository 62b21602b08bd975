import TechniquePages.Files.Tree
import TechniquePages.Log

/-!
# Actions on files

What a run does to the outside world is a value: a tree of the operations it
asks for, each with what happens after every possible answer.  The logic of
the library only builds such values.

An action is carried out here on a file tree, which gives its result, the tree
it leaves and what it has put out.  The command line carries the same actions
out on the disk.
-/

namespace TechniquePages

/-- Something that a run puts out. -/
inductive Output where
  | standard (text : Text)
  | standardError (text : Text)
  | event (event : Log.Event)
  deriving DecidableEq

/-- Operations to carry out, and a result. -/
inductive Action (α : Type) : Type where
  | done (value : α)
  | readText (path : FilePath) (next : Except FileFault Text → Action α)
  | readRepaired (path : FilePath) (next : Except FileFault Text → Action α)
  | makeDirectories (path : FilePath) (next : Except FileFault Unit → Action α)
  | writeText (path : FilePath) (text : Text) (next : Except FileFault Unit → Action α)
  | isDirectory (path : FilePath) (next : Bool → Action α)
  | isFile (path : FilePath) (next : Bool → Action α)
  | files (root : FilePath) (next : Except FileFault (List FilePath) → Action α)
  | put (output : Output) (next : Action α)

namespace Action

variable {α β : Type}

/-- Go on with the result of an action. -/
def andThen (after : α → Action β) : Action α → Action β
  | .done value => after value
  | .readText path next => .readText path fun answer => andThen after (next answer)
  | .readRepaired path next => .readRepaired path fun answer => andThen after (next answer)
  | .makeDirectories path next => .makeDirectories path fun answer => andThen after (next answer)
  | .writeText path text next => .writeText path text fun answer => andThen after (next answer)
  | .isDirectory path next => .isDirectory path fun answer => andThen after (next answer)
  | .isFile path next => .isFile path fun answer => andThen after (next answer)
  | .files root next => .files root fun answer => andThen after (next answer)
  | .put output next => .put output (andThen after next)

instance : Monad Action where
  pure := .done
  bind action after := andThen after action

/-- Put something out. -/
def emit (output : Output) : Action Unit := .put output (.done ())

/-- Report an event. -/
def log (event : Log.Event) : Action Unit := emit (.event event)

/-- Report events in order. -/
def logAll : List Log.Event → Action Unit
  | [] => .done ()
  | event :: rest => .put (.event event) (logAll rest)

/-- The same action without the events that a level does not show. -/
def limitLog (level : Log.Level) : Action α → Action α
  | .done value => .done value
  | .readText path next => .readText path fun answer => limitLog level (next answer)
  | .readRepaired path next => .readRepaired path fun answer => limitLog level (next answer)
  | .makeDirectories path next =>
    .makeDirectories path fun answer => limitLog level (next answer)
  | .writeText path text next => .writeText path text fun answer => limitLog level (next answer)
  | .isDirectory path next => .isDirectory path fun answer => limitLog level (next answer)
  | .isFile path next => .isFile path fun answer => limitLog level (next answer)
  | .files root next => .files root fun answer => limitLog level (next answer)
  | .put (.event event) next =>
    if event.isShown level then .put (.event event) (limitLog level next)
    else limitLog level next
  | .put output next => .put output (limitLog level next)

/-- What carrying an action out gives. -/
structure Outcome (α : Type) where
  value : α
  tree : FileTree
  outputs : List Output

/-- Carry an action out on a file tree. -/
def run (tree : FileTree) : Action α → Outcome α
  | .done value => ⟨value, tree, []⟩
  | .readText path next => run tree (next (tree.readText path))
  | .readRepaired path next => run tree (next (tree.readRepaired path))
  | .makeDirectories path next =>
    let (answer, made) := tree.makeDirectories path
    run made (next answer)
  | .writeText path text next =>
    match tree.writeText path text with
    | .ok written => run written (next (.ok ()))
    | .error fault => run tree (next (.error fault))
  | .isDirectory path next => run tree (next (tree.isDirectory path))
  | .isFile path next => run tree (next (tree.isFile path))
  | .files root next => run tree (next (tree.files root))
  | .put output next =>
    let outcome := run tree next
    { outcome with outputs := output :: outcome.outputs }

/-- An action followed by another one leaves what the second leaves after the first. -/
theorem run_bind
    (tree : FileTree)
    (action : Action α)
    (after : α → Action β) :
    run tree (action >>= after) =
      let first := run tree action
      let second := run first.tree (after first.value)
      ⟨second.value, second.tree, first.outputs ++ second.outputs⟩ := by
  show run tree (andThen after action) = _
  induction action generalizing tree with
  | done value => rfl
  | readText path next hypothesis => exact hypothesis _ tree
  | readRepaired path next hypothesis => exact hypothesis _ tree
  | makeDirectories path next hypothesis => exact hypothesis _ _
  | writeText path text next hypothesis =>
    simp only [andThen, run]
    cases tree.writeText path text with
    | ok written => exact hypothesis _ written
    | error fault => exact hypothesis _ tree
  | isDirectory path next hypothesis => exact hypothesis _ tree
  | isFile path next hypothesis => exact hypothesis _ tree
  | files root next hypothesis => exact hypothesis _ tree
  | put output next hypothesis => simp [andThen, run, hypothesis]

end Action

end TechniquePages
