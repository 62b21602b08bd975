import TechniquePages.Toml
import TechniquePages.Toml.Token

/-!
# Reading TOML

A document is a sequence of lines: a key with its value, the header of a table,
or nothing but white space and a comment.  Keys stand in the table that the
last header has opened.  A document that breaks a rule is refused as a whole.

Lists and tables inside a value may be nested only so deep, and a key has only
so many parts.
-/

namespace TechniquePages.Toml

/-- How deep lists and tables may be nested in a value, and how many parts a key may have. -/
def depthLimit : Nat := 79

/-- A character of a key that is not quoted. -/
def isBare (character : Char) : Bool :=
  character.isAlphanum || character == '_' || character == '-'

/-- Read one part of a key, bare or quoted. -/
def readPart : Reader Text := fun text =>
  match text.takeWhile isBare with
  | [] => Quoted.readShort text
  | bare => some (bare, text.dropWhile isBare)

/-- Read the parts of a key, and the white space around them. -/
def readParts : (fuel : Nat) → Reader (List Text)
  | 0, _ => none
  | fuel + 1, text => do
    let (part, rest) ← readPart (dropWhite text)
    match dropWhite rest with
    | '.' :: rest =>
      let (parts, rest) ← readParts fuel rest
      some (part :: parts, rest)
    | rest => some ([part], rest)

/-- A key: the tables it goes through, and the name it ends in. -/
structure Key where
  path : List Text
  name : Text

/-- Read a key; its last part is the name. -/
def readKey : Reader Key := fun text => do
  let (parts, rest) ← readParts depthLimit text
  let name ← parts.getLast?
  some (⟨parts.dropLast, name⟩, rest)

/-- Read a truth value. -/
def readBoolean : Reader Bool
  | 't' :: 'r' :: 'u' :: 'e' :: rest => some (true, rest)
  | 'f' :: 'a' :: 'l' :: 's' :: 'e' :: rest => some (false, rest)
  | _ => none

/-- Make a value of what has been read. -/
def kindOf
    {α : Type}
    (kind : α → Toml)
    (read : Option (α × Text)) : Option (Toml × Text) :=
  read.map fun (value, rest) => (kind value, rest)

/-- Read a value that is neither a list nor a table. -/
def readScalar : Reader Toml := fun text =>
  (kindOf .string (Quoted.read text)).or <|
  (kindOf .boolean (readBoolean text)).or <|
  (kindOf .moment (Moment.read text)).or <|
  (kindOf .double (Numeral.readDouble text)).or <|
  kindOf .integer (Numeral.readInteger text)

/-- Read the items of a list up to its closing bracket. -/
def readItems (readItem : Reader Toml) : (fuel : Nat) → Reader (List Toml)
  | 0, _ => none
  | fuel + 1, text =>
    match dropGap text with
    | ']' :: rest => some ([], rest)
    | start => do
      let (item, rest) ← readItem start
      match dropGap rest with
      | ']' :: rest => some ([item], rest)
      | ',' :: rest =>
        let (items, rest) ← readItems readItem fuel rest
        some (item :: items, rest)
      | _ => none

/-- Read a key, an equals sign and a value. -/
def readPair (readValue : Reader Toml) : Reader (Key × Toml) := fun text => do
  let (key, rest) ← readKey text
  match rest with
  | '=' :: rest =>
    let (value, rest) ← readValue (dropWhite rest)
    some ((key, value), rest)
  | _ => none

/-- Read the members of a table in braces up to the closing one; no comma may stand last. -/
def readMembers
    (readValue : Reader Toml) : (fuel : Nat) → (members : Members) → Reader Members
  | 0, _, _ => none
  | fuel + 1, members, text => do
    let ((key, value), rest) ← readPair readValue text
    let members ← putValue key.path key.name value .closed members
    match dropWhite rest with
    | '\x7d' :: rest => some (members, rest)
    | ',' :: rest => readMembers readValue fuel members rest
    | _ => none

/-- Read a value, given how deep it may still be nested. -/
def readValue : (budget : Nat) → Reader Toml
  | 0, text => readScalar text
  | budget + 1, text =>
    match text with
    | '[' :: rest => kindOf .list (readItems (readValue budget) text.length rest)
    | '\x7b' :: rest =>
      match dropWhite rest with
      | '\x7d' :: rest => some (.table .closed [], rest)
      | start =>
        kindOf (.table .closed) (readMembers (readValue budget) text.length [] start)
    | _ => readScalar text

/-- A document so far: its members, and the path of the table that keys stand in. -/
structure Draft where
  members : Members
  place : List Text

/-- Change the table that keys stand in. -/
def Draft.changePlace?
    (draft : Draft)
    (change : Standing → Members → Option Members) : Option Draft :=
  (changeTable .header change draft.place .headed draft.members).map fun members =>
    { draft with members := members }

/-- Open a table at a key, and let the following keys stand in it. -/
def Draft.openAt?
    (draft : Draft)
    (key : Key)
    (open? : Text → Members → Option Members) : Option Draft :=
  (changeTable .header (fun _ members => open? key.name members) key.path .headed
    draft.members).map fun members => ⟨members, key.path ++ [key.name]⟩

/-- Read a header after its first bracket. -/
def readHeader (draft : Draft) (text : Text) : Option (Draft × Text) :=
  match text with
  | '[' :: rest => do
    let (key, rest) ← readKey rest
    match rest with
    | ']' :: ']' :: rest => (draft.openAt? key openElement).map fun draft => (draft, rest)
    | _ => none
  | _ => do
    let (key, rest) ← readKey text
    match rest with
    | ']' :: rest => (draft.openAt? key openTable).map fun draft => (draft, rest)
    | _ => none

/-- Read a line that is not blank up to its comment or end. -/
def readLine (draft : Draft) (text : Text) : Option (Draft × Text) :=
  match text with
  | '[' :: rest => readHeader draft rest
  | _ => do
    let ((key, value), rest) ← readPair (readValue depthLimit) text
    let draft ← draft.changePlace? (putValue key.path key.name value)
    some (draft, rest)

/-- Read a document line by line; after a key or a header only a comment may stand on the line. -/
def readLines : (fuel : Nat) → (draft : Draft) → Text → Option Draft
  | 0, _, _ => none
  | fuel + 1, draft, text =>
    match finishLine? text with
    | some [] => some draft
    | some rest => readLines fuel draft rest
    | none =>
      match readLine draft (dropWhite text) with
      | none => none
      | some (draft, rest) =>
        match finishLine? rest with
        | none => none
        | some [] => some draft
        | some rest => readLines fuel draft rest

/-- The members of the document that a text holds; a byte order mark may precede it. -/
def read? (text : Text) : Option Members :=
  let body :=
    match text with
    | '\ufeff' :: rest => rest
    | _ => text
  (readLines (body.length + 1) ⟨[], []⟩ body).map Draft.members

end TechniquePages.Toml
