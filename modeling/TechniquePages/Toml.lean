import TechniquePages.Toml.Moment
import TechniquePages.Toml.Token

/-!
# TOML values

A value is a scalar, a list or a table.  How a table came to be decides how it
may still grow, so every table has a standing: one that only a longer header
has named may still get a header of its own, one that dotted keys have made
may get further dotted keys, and one written in braces is closed.

A list of tables that headers open one after the other is apart from a list
written in brackets, which is closed as well.  Its latest table comes first.
-/

namespace TechniquePages

/-- How a table came to be. -/
inductive Toml.Standing where
  /-- Named by the header of a table below it. -/
  | implied
  /-- Made by a dotted key. -/
  | dotted
  /-- Opened by a header of its own. -/
  | headed
  /-- Written in braces. -/
  | closed
  deriving DecidableEq

/-- A value of a TOML document. -/
inductive Toml where
  | boolean (value : Bool)
  | integer (value : Int)
  | double (value : Toml.Double)
  | string (value : Text)
  | moment (value : Toml.Moment)
  | list (items : List Toml)
  | table (standing : Toml.Standing) (members : List (Text × Toml))
  /-- Tables that headers have opened one after the other. -/
  | tables (latestFirst : List (List (Text × Toml)))

namespace Toml

/-!
## Growing tables

A document is built by putting values under keys and by opening tables with
headers.  Each of these walks a path of names and then changes the table that
it leads to; names without a table get one on the way.

A key walks only through tables that are not headed, and ends in one that
dotted keys have made.  A header walks through every table that is not closed.
Both enter the latest table of a list that headers have opened.
-/

/-- The members of a table in document order. -/
abbrev Members := List (Text × Toml)

/-- What walks a path of names: the key of a value, or a header. -/
inductive Walker where
  | key
  | header
  deriving DecidableEq

/-- The standing of a table that is made on the way. -/
def Walker.made : Walker → Standing
  | .key => .dotted
  | .header => .implied

/--
The tables that may be walked through.  Nothing enters a table in braces, and a key
enters none that has a header of its own.
-/
def Walker.enters : Walker → Standing → Bool
  | _, .closed => false
  | .key, .headed => false
  | _, _ => true

/-- Change the member of a name, or add one at the end. -/
def changeMember
    (name : Text)
    (change : Option Toml → Option Toml) : Members → Option Members
  | [] => (change none).map fun value => [(name, value)]
  | (other, present) :: rest =>
    if other = name then (change (some present)).map fun value => (other, value) :: rest
    else (changeMember name change rest).map fun changed => (other, present) :: changed

/--
Change the table that a path leads to from a table with a standing and members.  A
change that is refused anywhere is refused as a whole.
-/
def changeTable
    (walker : Walker)
    (change : Standing → Members → Option Members) :
    (path : List Text) → Standing → Members → Option Members
  | [], standing, members => change standing members
  | name :: path, _, members =>
    changeMember name
      (fun present =>
        match present with
        | none =>
          (changeTable walker change path walker.made []).map (.table walker.made)
        | some (.table standing inner) =>
          if walker.enters standing then
            (changeTable walker change path standing inner).map (.table standing)
          else none
        | some (.tables (latest :: earlier)) =>
          (changeTable walker change path .headed latest).map fun changed =>
            .tables (changed :: earlier)
        | some _ => none)
      members

/-- Add a member to a table that dotted keys have made, or to the one they start from. -/
def addMember
    (isDotted : Bool)
    (name : Text)
    (value : Toml)
    (standing : Standing)
    (members : Members) : Option Members :=
  if (isDotted && standing != .dotted) || (members.lookup name).isSome then none
  else some (members ++ [(name, value)])

/-- Put a value under a key: walk the key's path, then add its name to the table reached. -/
def putValue
    (path : List Text)
    (name : Text)
    (value : Toml)
    (standing : Standing)
    (members : Members) : Option Members :=
  changeTable .key (addMember (!path.isEmpty) name value) path standing members

/-- Open a table by a header; one that only longer headers have named may still be opened. -/
def openTable (name : Text) : Members → Option Members :=
  changeMember name fun present =>
    match present with
    | none => some (.table .headed [])
    | some (.table .implied members) => some (.table .headed members)
    | some _ => none

/-- Open another table of a list by a header. -/
def openElement (name : Text) : Members → Option Members :=
  changeMember name fun present =>
    match present with
    | none => some (.tables [[]])
    | some (.tables elements) => some (.tables ([] :: elements))
    | some _ => none

end Toml

end TechniquePages
