import TechniquePages.Binary64.Shortest
import TechniquePages.Files.Tree
import TechniquePages.Text.Quotation
import TechniquePages.Toml

/-!
# Single settings

A setting is a scalar, a list or a table of settings, and remembers the file
that it was read from.  A place in a list that was never given anything is
absent.

Where a text is called for, every scalar has one; where a truth value is
called for, numbers and some words stand for one as well.
-/

namespace TechniquePages

/-- A setting that has no parts. -/
inductive Setting.Scalar where
  | boolean (value : Bool)
  | integer (value : Int)
  | double (value : Toml.Double)
  | string (value : Text)
  deriving DecidableEq

/-- A setting, with the file it was read from. -/
inductive Setting where
  | absent
  | scalar (value : Setting.Scalar) (origin : Option FilePath)
  | list (items : List Setting) (origin : Option FilePath)
  | table (members : List (Text × Setting)) (origin : Option FilePath)

namespace Setting

/-- The members of a table in the order in which their names came. -/
abbrev Members := List (Text × Setting)

/-- The text of a double, without a point where nothing follows it. -/
def doubleText : Toml.Double → Text
  | .finite number => number.positional
  | .infinite false => "inf".toList
  | .infinite true => "-inf".toList
  | .notNumber => "NaN".toList

/-- The text of a truth value. -/
def booleanText : Bool → Text
  | true => "true".toList
  | false => "false".toList

/-- The text that a scalar has where a text is called for. -/
def Scalar.text : Scalar → Text
  | .boolean value => booleanText value
  | .integer value => Text.ofInt value
  | .double value => doubleText value
  | .string value => value

mutual

/-- The setting that a value of a file stands for; dates and times are texts. -/
def ofToml (origin : FilePath) : Toml → Setting
  | .boolean value => .scalar (.boolean value) (some origin)
  | .integer value => .scalar (.integer value) (some origin)
  | .double value => .scalar (.double value) (some origin)
  | .string value => .scalar (.string value) (some origin)
  | .moment value => .scalar (.string value.text) (some origin)
  | .list items => .list (ofItems origin items) (some origin)
  | .table _ members => .table (ofMembers origin members) (some origin)
  | .tables latestFirst => .list (ofTables origin latestFirst).reverse (some origin)

/-- The settings that the items of a list stand for. -/
def ofItems (origin : FilePath) : List Toml → List Setting
  | [] => []
  | item :: rest => ofToml origin item :: ofItems origin rest

/-- The settings that the members of a table stand for. -/
def ofMembers (origin : FilePath) : List (Text × Toml) → Members
  | [] => []
  | (name, value) :: rest => (name, ofToml origin value) :: ofMembers origin rest

/-- The settings that tables opened one after the other stand for. -/
def ofTables (origin : FilePath) : List (List (Text × Toml)) → List Setting
  | [] => []
  | members :: rest => .table (ofMembers origin members) (some origin) :: ofTables origin rest

end

end Setting

/-!
## Faults

Settings fail when a file is missing or is no TOML, when a key is no key path,
and when a setting has not the type that its name calls for.
-/

/-- What a setting looks like where something else is called for. -/
inductive SettingShape where
  | absent
  | scalar (value : Setting.Scalar)
  | list
  | table
  deriving DecidableEq

/-- What a setting looks like. -/
def Setting.shape : Setting → SettingShape
  | .absent => .absent
  | .scalar value _ => .scalar value
  | .list _ _ => .list
  | .table _ _ => .table

/-- The text of a double that keeps a point where it is finite. -/
def SettingShape.doubleText (value : Toml.Double) : Text :=
  let text := Setting.doubleText value
  match value with
  | .finite _ => if text.contains '.' then text else text ++ ".0".toList
  | _ => text

/-- A setting as a message shows it. -/
def SettingShape.message : SettingShape → Text
  | .absent => "unit value".toList
  | .scalar (.boolean value) => "boolean `".toList ++ Setting.booleanText value ++ "`".toList
  | .scalar (.integer value) => "integer `".toList ++ Text.ofInt value ++ "`".toList
  | .scalar (.double value) => "floating point `".toList ++ doubleText value ++ "`".toList
  | .scalar (.string value) => "string ".toList ++ Text.quoted value
  | .list => "sequence".toList
  | .table => "map".toList

/-- Why settings cannot be used. -/
inductive SettingsFault where
  | missingFile (path : FilePath)
  | unreadable (path : FilePath) (fault : FileFault)
  | notToml (path : FilePath)
  | badKey (key : Text)
  | wrongType (found : SettingShape) (expected place : Text) (origin : Option FilePath)
  | wrongSection (found : SettingShape) (title : Text)
  | shortSection (length : Nat) (title : Text) (entries : Nat)
  | missingEntry (name : Text)
  deriving DecidableEq

/-- The wording of a fault. -/
def SettingsFault.message : SettingsFault → Text
  | .missingFile path => "configuration file \"".toList ++ path ++ "\" not found".toList
  | .unreadable path fault => path ++ ": ".toList ++ fault.message
  | .notToml path => "the document is not TOML in ".toList ++ path
  | .badKey key => "not a key path: ".toList ++ Text.quoted key
  | .wrongType found expected place origin =>
    "invalid type: ".toList ++ found.message ++ ", expected ".toList ++ expected ++
      " for key `".toList ++ place ++ "`".toList ++
      match origin with
      | some path => " in ".toList ++ path
      | none => []
  | .wrongSection found title =>
    "invalid type: ".toList ++ found.message ++ ", expected struct ".toList ++ title
  | .shortSection length title entries =>
    "invalid length ".toList ++ Text.ofNat length ++ ", expected struct ".toList ++ title ++
      " with ".toList ++ Text.ofNat entries ++
      (if entries = 1 then " element".toList else " elements".toList)
  | .missingEntry name => "missing field `".toList ++ name ++ "`".toList

end TechniquePages
