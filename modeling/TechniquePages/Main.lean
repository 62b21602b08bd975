import TechniquePages.CommandLine

/-!
# The program

The outermost layer: the operations of an action are carried out on the disk,
one after the other, and what it puts out goes to the two output streams.
Nothing is decided here.
-/

namespace TechniquePages.Disk

/-- The number of a failed operation, and its wording. -/
def faultOf : IO.Error → FileFault
  | .noFileOrDirectory _ _ _ => .notFound
  | .alreadyExists _ code details => ofCode code details
  | .permissionDenied _ code details => ofCode code details
  | .resourceExhausted _ code details => ofCode code details
  | .inappropriateType _ code details => ofCode code details
  | .noSuchThing _ code details => ofCode code details
  | .invalidArgument _ code details => ofCode code details
  | .resourceBusy code details => ofCode code details
  | .unsupportedOperation code details => ofCode code details
  | .hardwareFault code details => ofCode code details
  | .otherError code details => ofCode code details
  | other => .system (toString other).toList 0
where
  ofCode (code : UInt32) (details : String) : FileFault :=
    match code.toNat with
    | 2 => .notFound
    | 17 => .alreadyExists
    | 20 => .notDirectory
    | 21 => .isDirectory
    | 36 => .nameTooLong
    | other => .system details.toList other

/-- A path as the disk operations take it. -/
def place (path : FilePath) :=
  (IO.FS.DirEntry.mk (String.ofList path) "").root

/-- Carry an operation out, unless its path cannot name a file. -/
def attempt {α : Type} (path : FilePath) (operation : IO α) : IO (Except FileFault α) := do
  if path.contains '\x00' then return .error .holdsNul
  try
    return .ok (← operation)
  catch fault =>
    return .error (faultOf fault)

/-- Something of the kind stands at the path. -/
def isKind (kind : IO.FS.FileType) (path : FilePath) : IO Bool := do
  match ← attempt path (place path).metadata with
  | .ok metadata => return metadata.type == kind
  | .error _ => return false

/-- The bytes of a file. -/
def readBytes (path : FilePath) : IO (Except FileFault ByteArray) :=
  attempt path (IO.FS.readBinFile (place path))

/-- The paths of all files at or below a path. -/
partial def filesBelow (path : FilePath) : IO (List FilePath) := do
  if ← isKind .dir path then
    let entries ← (place path).readDir
    let found ← entries.toList.mapM fun entry => filesBelow (path.join entry.fileName.toList)
    return found.flatten
  else return [path]

/-- Carry an action out on the disk. -/
def perform {α : Type} : Action α → IO α
  | .done value => return value
  | .readText path next => do
    match ← readBytes path with
    | .error fault => perform (next (.error fault))
    | .ok bytes =>
      match String.fromUTF8? bytes with
      | some text => perform (next (.ok text.toList))
      | none => perform (next (.error .invalidText))
  | .readRepaired path next => do
    let answer ← readBytes path
    perform (next (answer.map fun bytes => Text.ofBytes bytes.toList))
  | .makeDirectories path next => do
    let answer ← attempt path (IO.FS.createDirAll (place path))
    perform (next answer)
  | .writeText path text next => do
    let answer ← attempt path (IO.FS.writeFile (place path) (String.ofList text))
    perform (next answer)
  | .isDirectory path next => do
    let answer ← isKind .dir path
    perform (next answer)
  | .isFile path next => do
    let answer ← isKind .file path
    perform (next answer)
  | .files root next => do
    let answer ← attempt root (do
      let _ ← (place root).metadata
      filesBelow root)
    perform (next answer)
  | .put (.standard text) next => do
    (← IO.getStdout).putStr (String.ofList text)
    perform next
  | .put (.standardError text) next => do
    (← IO.getStderr).putStr (String.ofList text)
    perform next
  | .put (.event event) next => do
    (← IO.getStderr).putStrLn (String.ofList event.line)
    perform next

end TechniquePages.Disk

/-- Run the program on its arguments; the result is its exit status. -/
def main (arguments : List String) : IO UInt32 := do
  let status ← TechniquePages.Disk.perform
    (TechniquePages.CommandLine.run (arguments.map String.toList))
  return status.toUInt32
