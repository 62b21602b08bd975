import TechniquePages.Html.Reference
import TechniquePages.Page.Line
import TechniquePages.Technique

/-!
# The table of inputs

The arguments of a test stand in a table with four columns: name, description,
type and default value.  A table is a row of titles, a row of rules, and one
row for each argument; it ends at the first line that is not a row.

A cell is trimmed and its references are replaced.  An empty cell says that
the value is absent.  A row with fewer than four cells says nothing, and cells
beyond the fourth are passed over.
-/

namespace TechniquePages.Page.InputsTable

open Unicode (isBlank)

/-- A line that begins and ends with a bar. -/
def isRow (text : Text) : Bool :=
  match text.trim with
  | first :: second :: rest =>
    first == '|' && (second :: rest).getLast? == some '|'
  | _ => false

/-- A row of bars, hyphens, colons and blanks. -/
def isRule (text : Text) : Bool :=
  isRow text &&
    text.trim.all fun character =>
      character == '|' || character == '-' || character == ':' || isBlank character

/-- Drop every bar at both ends. -/
def trimBars (text : Text) : Text :=
  ((text.dropWhile (· == '|')).reverse.dropWhile (· == '|')).reverse

/-- The cells of a row, trimmed and with their references replaced. -/
def cells (row : Text) : List Text :=
  (Text.cutAt '|' (trimBars row.trim)).map fun cell => Html.decode cell.trim

/-- What a cell says: nothing if it is empty. -/
def present? (cell : Text) : Option Text :=
  if cell.isEmpty then none else some cell

/-- The argument that a row says, if it has enough cells. -/
def argument? (row : Text) : Option Argument :=
  match cells row with
  | name :: description :: type :: value :: _ =>
    some ⟨name, present? description, present? type, present? value⟩
  | _ => none

/-- The rows below the rules of a well-formed table. -/
def rows? : List Text → Option (List Text)
  | titles :: rule :: rest =>
    if isRow titles && isRule rule then some (rest.takeWhile isRow) else none
  | _ => none

/-- The arguments of a table; a later row of a name takes the place of the earlier one. -/
def arguments (texts : List Text) : Arguments :=
  ((((rows? texts).getD []).filterMap argument?).foldl Arguments.insert .empty)

/-- A cell of the written table. -/
def cell (text : Text) : Text :=
  Html.escapeBackslashes text

/-- The row of an argument; an absent value makes an empty cell. -/
def row (argument : Argument) : Text :=
  "| ".toList ++ cell argument.name ++
    " | ".toList ++ cell (argument.description.getD []) ++
    " | ".toList ++ cell (argument.type.getD []) ++
    " | ".toList ++ cell (argument.value.getD []) ++ "|".toList

/-- The lines of the written table. -/
def write (arguments : Arguments) : List Text :=
  "| Name | Description | Type | Default Value |".toList ::
    "|------|-------------|------|---------------|".toList ::
    arguments.entries.map row

end TechniquePages.Page.InputsTable
