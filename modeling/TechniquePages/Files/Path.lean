import TechniquePages.Text

/-!
# Paths

A path is the text that names a file, and it is shown as it was given.  What
it consists of is found by cutting it at slashes: a slash at the start roots
it, repeated slashes and dots between slashes say nothing, and a dot at the
start of a path that is not rooted is a part like any other.

The pieces are handled from the end, since a path's name, its extension and
its parent are all found there.
-/

namespace TechniquePages

/-- A path as it was given. -/
abbrev FilePath := Text

namespace FilePath

/-- What a path consists of. -/
inductive Part where
  /-- The slash at the start. -/
  | root
  /-- The dot at the start; later ones say nothing. -/
  | here
  /-- Two dots. -/
  | up
  | name (name : Text)
  deriving DecidableEq

/-- The path starts from the root. -/
def isRooted (path : FilePath) : Bool :=
  path.head? == some '/'

/-- Drop pieces that say nothing from the end; the first piece always stays. -/
def dropIdle : (reversed : List Text) → List Text
  | [] => []
  | [first] => [first]
  | last :: next :: rest =>
    if last.isEmpty || last = ['.'] then dropIdle (next :: rest) else last :: next :: rest

/-- The pieces between slashes, from the end, without idle ones there. -/
def reversedPieces (path : FilePath) : List Text :=
  dropIdle (Text.cutAt '/' path).reverse

/-- The path of reversed pieces; an empty first piece alone is the root. -/
def ofReversed (reversed : List Text) : FilePath :=
  if reversed = [[]] then ['/'] else Text.joinWith ['/'] reversed.reverse

/-- The last part, if it is a name. -/
def fileName? (path : FilePath) : Option Text :=
  match reversedPieces path with
  | [] => none
  | last :: _ =>
    if last.isEmpty || last = ['.'] || last = "..".toList then none else some last

/-- The path without its last part; a root and an empty path have none. -/
def parent? (path : FilePath) : Option FilePath :=
  match reversedPieces path with
  | [] => none
  | [first] => if first.isEmpty then none else some []
  | _ :: next :: rest => some (ofReversed (dropIdle (next :: rest)))

/-- A path taken from another one; a rooted path stands for itself. -/
def join (base path : FilePath) : FilePath :=
  if isRooted path then path
  else if base.isEmpty || base.getLast? = some '/' then base ++ path
  else base ++ '/' :: path

/-- A name cut before its last dot; a dot at the start does not count. -/
def cutExtension (name : Text) : Text × Option Text :=
  let reversed := name.reverse
  match reversed.dropWhile (· != '.') with
  | [] => (name, none)
  | [_] => (name, none)
  | _ :: stem => (stem.reverse, some (reversed.takeWhile (· != '.')).reverse)

/-- What follows the last dot of the path's name. -/
def extension? (path : FilePath) : Option Text := do
  let name ← fileName? path
  (cutExtension name).2

/-- The path's name without its extension. -/
def stem? (path : FilePath) : Option Text := do
  let name ← fileName? path
  some (cutExtension name).1

/-- The part that a piece after the first one stands for. -/
def laterPart? (piece : Text) : Option Part :=
  if piece.isEmpty || piece = ['.'] then none
  else if piece = "..".toList then some .up
  else some (.name piece)

/-- The parts of a path, without the pieces that say nothing. -/
def parts (path : FilePath) : List Part :=
  match Text.cutAt '/' path with
  | [] => []
  | first :: rest =>
    let leading : List Part :=
      if isRooted path then [.root]
      else if first = ['.'] then [.here]
      else (laterPart? first).toList
    leading ++ rest.filterMap laterPart?

/-- The order of the kinds of parts. -/
def Part.rank : Part → Nat
  | .root => 0
  | .here => 1
  | .up => 2
  | .name _ => 3

/-- Parts in order: by kind, names by code point. -/
def Part.precedes : (left right : Part) → Bool
  | .name left, .name right => Text.precedes left right
  | left, right => left.rank < right.rank

/-- Lists of parts in order, the first difference deciding. -/
def partsPrecede : (left right : List Part) → Bool
  | _, [] => false
  | [], _ :: _ => true
  | first :: left, second :: right =>
    if first = second then partsPrecede left right else first.precedes second

/-- Paths in order, part by part. -/
def precedes (left right : FilePath) : Bool :=
  partsPrecede (parts left) (parts right)

example : parent? "dir/./b.json".toList = some "dir".toList := by decide

example : parent? "dir/".toList = some [] ∧ parent? "/".toList = none := by decide

example : extension? ".md".toList = none ∧ extension? "a..md".toList = some "md".toList := by
  decide

example : join "out".toList "/abs".toList = "/abs".toList := by decide

end FilePath

end TechniquePages
