import TechniquePages.Files.Path
import TechniquePages.Text.Bytes

/-!
# File trees

A file tree is the part of a file system that a run can reach: the entries by
their place, and the place that paths without a root are taken from.  A place
is the list of names from the root; the root itself is always a directory.

Walking a path asks at every step that the place reached so far is a
directory.  What goes wrong is reported in the words of the system.
-/

namespace TechniquePages

/-- Why a file operation fails. -/
inductive FileFault where
  | notFound
  | alreadyExists
  | notDirectory
  | isDirectory
  | nameTooLong
  | holdsNul
  | invalidText
  /-- Any other failure, as the system words and numbers it. -/
  | system (reason : Text) (code : Nat)
  deriving DecidableEq

/-- The words of the system for a fault, and its number. -/
def FileFault.message : FileFault → Text
  | .notFound => "No such file or directory (os error 2)".toList
  | .alreadyExists => "File exists (os error 17)".toList
  | .notDirectory => "Not a directory (os error 20)".toList
  | .isDirectory => "Is a directory (os error 21)".toList
  | .nameTooLong => "File name too long (os error 36)".toList
  | .holdsNul => "file name contained an unexpected NUL byte".toList
  | .invalidText => "stream did not contain valid UTF-8".toList
  | .system reason code => reason ++ " (os error ".toList ++ Text.ofNat code ++ ")".toList

/-- The names from the root to an entry. -/
abbrev Place := List Text

/-- What stands at a place; bytes are kept for a file that holds no text. -/
inductive Entry where
  | directory
  | file (text : Text)
  | binary (bytes : List UInt8)
  deriving DecidableEq

/-- The entries of a file system, and where paths start. -/
structure FileTree where
  home : Place
  entries : List (Place × Entry)

namespace FileTree

/-- What stands at a place. -/
def entry? (tree : FileTree) (place : Place) : Option Entry :=
  if place.isEmpty then some .directory else tree.entries.lookup place

/-- A directory stands at the place. -/
def hasDirectory (tree : FileTree) (place : Place) : Bool :=
  tree.entry? place == some .directory

/-- Put an entry at a place, in the stead of what is there. -/
def put (place : Place) (entry : Entry) : List (Place × Entry) → List (Place × Entry)
  | [] => [(place, entry)]
  | (other, present) :: rest =>
    if other = place then (place, entry) :: rest
    else (other, present) :: put place entry rest

/-- The tree with an entry at a place. -/
def set (tree : FileTree) (place : Place) (entry : Entry) : FileTree :=
  { tree with entries := put place entry tree.entries }

/-- Why a path cannot go on below a place. -/
def obstacle (tree : FileTree) (place : Place) : FileFault :=
  if (tree.entry? place).isSome then .notDirectory else .notFound

/-- The longest name, in bytes. -/
def nameLimit : Nat := 255

/-- How many bytes a text takes. -/
def byteLength (text : Text) : Nat :=
  text.foldl (fun length character => length + character.utf8Size) 0

/--
The place that the pieces of a path lead to.  Nothing need stand there, but every place
on the way is a directory.
-/
def follow (tree : FileTree) : Place → List Text → Except FileFault Place
  | place, [] => .ok place
  | place, piece :: rest =>
    if piece.isEmpty then follow tree place rest
    else if !tree.hasDirectory place then .error (tree.obstacle place)
    else if piece = ['.'] then follow tree place rest
    else if piece = "..".toList then follow tree place.dropLast rest
    else if nameLimit < byteLength piece then .error .nameTooLong
    else follow tree (place ++ [piece]) rest

/-- The place of a path; every place before the last one is a directory. -/
def locate (tree : FileTree) (path : FilePath) : Except FileFault Place :=
  if path.contains '\x00' then .error .holdsNul
  else if path.isEmpty then .error .notFound
  else tree.follow (if path.isRooted then [] else tree.home) (Text.cutAt '/' path)

/-- The path asks for a directory by ending in a slash. -/
def asksDirectory (path : FilePath) : Bool :=
  path.getLast? == some '/'

/-- The path leads to a directory. -/
def isDirectory (tree : FileTree) (path : FilePath) : Bool :=
  match tree.locate path with
  | .ok place => tree.hasDirectory place
  | .error _ => false

/-- The path leads to a file and does not ask for a directory. -/
def isFile (tree : FileTree) (path : FilePath) : Bool :=
  match tree.locate path with
  | .ok place =>
    match tree.entry? place with
    | some (.file _) => !asksDirectory path
    | some (.binary _) => !asksDirectory path
    | _ => false
  | .error _ => false

/-- The text of a file, if the path leads to one that holds text. -/
def readText (tree : FileTree) (path : FilePath) : Except FileFault Text :=
  match tree.locate path with
  | .error fault => .error fault
  | .ok place =>
    match tree.entry? place with
    | none => .error .notFound
    | some .directory => .error .isDirectory
    | some (.file text) => if asksDirectory path then .error .notDirectory else .ok text
    | some (.binary _) => .error (if asksDirectory path then .notDirectory else .invalidText)

/-- The text of a file, bytes that are no text replaced. -/
def readRepaired (tree : FileTree) (path : FilePath) : Except FileFault Text :=
  match tree.locate path with
  | .error fault => .error fault
  | .ok place =>
    match tree.entry? place with
    | none => .error .notFound
    | some .directory => .error .isDirectory
    | some (.file text) => if asksDirectory path then .error .notDirectory else .ok text
    | some (.binary bytes) =>
      if asksDirectory path then .error .notDirectory else .ok (Text.ofBytes bytes)

/-- Make one directory; the one above it has to be there. -/
def makeDirectory (tree : FileTree) (path : FilePath) : Except FileFault FileTree :=
  match tree.locate path with
  | .error fault => .error fault
  | .ok place =>
    match tree.entry? place with
    | some _ => .error .alreadyExists
    | none => .ok (tree.set place .directory)

/-- Make a directory and those above it; what has been made stays if a later one fails. -/
def makeDirectoriesWithin
    (tree : FileTree) : (fuel : Nat) → (path : FilePath) → Except FileFault Unit × FileTree
  | 0, _ => (.error .notFound, tree)
  | fuel + 1, path =>
    if path.isEmpty then (.ok (), tree)
    else
      match tree.makeDirectory path with
      | .ok made => (.ok (), made)
      | .error .notFound =>
        -- Only a missing parent is mended; then the directory itself is tried once more.
        match path.parent? with
        | none => (.error .notFound, tree)
        | some parent =>
          match makeDirectoriesWithin tree fuel parent with
          | (.error fault, left) => (.error fault, left)
          | (.ok (), above) =>
            match above.makeDirectory path with
            | .ok made => (.ok (), made)
            | .error fault =>
              if above.isDirectory path then (.ok (), above) else (.error fault, above)
      | .error fault =>
        if tree.isDirectory path then (.ok (), tree) else (.error fault, tree)

/-- Make a directory and those above it; a directory that is there is no fault. -/
def makeDirectories (tree : FileTree) (path : FilePath) : Except FileFault Unit × FileTree :=
  makeDirectoriesWithin tree (path.length + 1) path

/-- Write a text to a file, in the stead of what the file held. -/
def writeText
    (tree : FileTree)
    (path : FilePath)
    (text : Text) : Except FileFault FileTree :=
  match tree.locate path with
  | .error fault => .error fault
  | .ok place =>
    match tree.entry? place with
    | some .directory => .error .isDirectory
    | some _ =>
      if asksDirectory path then .error .notDirectory else .ok (tree.set place (.file text))
    | none =>
      if asksDirectory path then .error .isDirectory else .ok (tree.set place (.file text))

/-- The names from a place down to another one, if that lies at or below it. -/
def below? : (above place : Place) → Option Place
  | [], place => some place
  | _ :: _, [] => none
  | first :: above, name :: place => if first = name then below? above place else none

/-- The paths of all files at or below a path. -/
def files (tree : FileTree) (root : FilePath) : Except FileFault (List FilePath) :=
  match tree.locate root with
  | .error fault => .error fault
  | .ok place =>
    match tree.entry? place with
    | none => .error .notFound
    | some present =>
      if asksDirectory root && present ≠ .directory then .error .notDirectory
      else
        .ok (tree.entries.filterMap fun (other, entry) =>
          if entry = .directory then none
          else (below? place other).map fun names => names.foldl FilePath.join root)

end FileTree

end TechniquePages
