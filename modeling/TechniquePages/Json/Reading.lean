import TechniquePages.Json.Source

/-!
# Reading values

Readers judge a written tree in reading order.  A reader is given the number
of lists and objects that may still be opened around it; a value that is
passed over may be nested to any depth.

A record is read from an object or from a list.  In an object the fields stand
in any order, a field may not be repeated, and unknown members are passed
over.  In a list the fields stand in their order, and only optional ones may
be left off at the end.
-/

namespace TechniquePages.Json

/-- How many lists and objects may be open at once. -/
def depthLimit : Nat := 127

/-- A reader, given how many lists and objects may still be opened. -/
abbrev Reader (α : Type) := (budget : Nat) → Source → Except Fault α

/-- Go on unless there is a fault. -/
def refuse : Option Fault → Except Fault Unit
  | none => .ok ()
  | some fault => .error fault

mutual

/-- Pass over a value. -/
def Source.skim : Source → Except Fault Unit
  | .broken fault => .error fault
  | .null => .ok ()
  | .boolean _ => .ok ()
  | .number _ skipped => skipped
  | .text _ skipped => skipped
  | .list items => items.skim
  | .object members => members.skim

/-- Pass over items. -/
def Items.skim : Items → Except Fault Unit
  | .stop ending => refuse ending.skippedListFault?
  | .item head tail =>
    match head.skim with
    | .error fault => .error fault
    | .ok () => tail.skim

/-- Pass over members. -/
def Members.skim : Members → Except Fault Unit
  | .stop ending => refuse ending.skippedObjectFault?
  | .member _ skipped value tail =>
    match skipped with
    | .error fault => .error fault
    | .ok () =>
      match value.skim with
      | .error fault => .error fault
      | .ok () => tail.skim

end

mutual

/-- Read a value of any kind. -/
def Source.toJson (budget : Nat) : Source → Except Fault Json
  | .broken fault => .error fault
  | .null => .ok .null
  | .boolean value => .ok (.boolean value)
  | .number value _ => value.map .number
  | .text value _ => value.map .string
  | .list items =>
    match budget with
    | 0 => .error .tooDeep
    | budget + 1 => (items.toJson budget).map .array
  | .object members =>
    match budget with
    | 0 => .error .tooDeep
    | budget + 1 => (members.toJson budget).map .object

/-- Read items of any kind. -/
def Items.toJson (budget : Nat) : Items → Except Fault (List Json)
  | .stop ending => (refuse ending.listFault?).map fun () => []
  | .item head tail =>
    match head.toJson budget with
    | .error fault => .error fault
    | .ok value => (tail.toJson budget).map (value :: ·)

/-- Read members of any kind. -/
def Members.toJson (budget : Nat) : Members → Except Fault (List (Text × Json))
  | .stop ending => (refuse ending.objectFault?).map fun () => []
  | .member key _ value tail =>
    match key with
    | .error fault => .error fault
    | .ok name =>
      match value.toJson budget with
      | .error fault => .error fault
      | .ok read => (tail.toJson budget).map ((name, read) :: ·)

end

/-- What the value looks like, unless looking at it meets a fault. -/
def Source.shape? : Source → Except Fault Shape
  | .broken fault => .error fault
  | .null => .ok .null
  | .boolean value => .ok (.boolean value)
  | .number (.error fault) _ => .error fault
  | .number (.ok (.integer value)) _ => .ok (.integer value)
  | .number (.ok (.double value)) _ => .ok (.double value.text)
  | .text (.error fault) _ => .error fault
  | .text (.ok value) _ => .ok (.text (Text.quoted value))
  | .list _ => .ok .sequence
  | .object _ => .ok .map

/-- The fault of a value that is not of the expected kind. -/
def Source.mismatch
    (source : Source)
    (expected : Text) : Fault :=
  match source.shape? with
  | .error fault => fault
  | .ok shape => .wrongType shape expected

/-- Read a text; no other value stands for one. -/
def readString : Reader Text
  | _, .text value _ => value
  | _, source => .error (source.mismatch "a string".toList)

/-- Read a truth value; no other value stands for one. -/
def readBoolean : Reader Bool
  | _, .boolean value => .ok value
  | _, source => .error (source.mismatch "a boolean".toList)

/-- Read a value in whose place null may stand. -/
def readOptional
    {α : Type}
    (read : Reader α) : Reader (Option α)
  | _, .null => .ok none
  | budget, source => (read budget source).map some

/-- Read a value, null standing for a default. -/
def readOr
    {α : Type}
    (fallback : α)
    (read : Reader α) : Reader α
  | budget, source => (readOptional read budget source).map (·.getD fallback)

/-- Read the items of an open list, each by the same reader. -/
def readEach
    {α : Type}
    (read : Reader α)
    (budget : Nat) : Items → Except Fault (List α)
  | .stop ending => (refuse ending.listFault?).map fun () => []
  | .item head tail =>
    match read budget head with
    | .error fault => .error fault
    | .ok value => (readEach read budget tail).map (value :: ·)

/-- Open a list or an object, if another one may be opened. -/
def opening
    {α : Type}
    (budget : Nat)
    (inside : (budget : Nat) → Except Fault α) : Except Fault α :=
  match budget with
  | 0 => .error .tooDeep
  | budget + 1 => inside budget

/-- Read a list of which every item is read alike. -/
def readList
    {α : Type}
    (read : Reader α) : Reader (List α)
  | budget, .list items => opening budget fun budget => readEach read budget items
  | _, source => .error (source.mismatch "a sequence".toList)

/-- A field of a record, read into a draft of the record. -/
structure FieldShape (δ : Type) where
  name : Text
  /-- Another key that is taken for this field. -/
  otherName : Option Text
  /-- A record written as a list may not stop before this field. -/
  required : Bool
  isSet : δ → Bool
  read : (budget : Nat) → Source → δ → Except Fault δ

/-- A field that is read by a reader and stored by a function. -/
def FieldShape.of
    {δ α : Type}
    (name : String)
    (required : Bool)
    (read : Reader α)
    (get : δ → Option α)
    (set : δ → α → δ) : FieldShape δ where
  name := name.toList
  otherName := none
  required := required
  isSet draft := (get draft).isSome
  read budget source draft := (read budget source).map (set draft)

/-- The key is the field's name, or the other key that is taken for it. -/
def FieldShape.accepts
    {δ : Type}
    (field : FieldShape δ)
    (key : Text) : Bool :=
  field.name == key || field.otherName == some key

/-- A record: its name in messages, its fields in order, and how a draft is finished. -/
structure RecordShape (δ α : Type) where
  title : Text
  fields : List (FieldShape δ)
  blank : δ
  finish : δ → Except Fault α

namespace RecordShape

variable {δ α : Type}

/-- What a reader of the record expects, as messages say it. -/
def expectation (shape : RecordShape δ α) : Text :=
  "struct ".toList ++ shape.title

/-- What a reader of the record expects of a list. -/
def listExpectation (shape : RecordShape δ α) : Text :=
  shape.expectation ++ " with ".toList ++ Text.ofNat shape.fields.length ++
    (if shape.fields.length = 1 then " element".toList else " elements".toList)

/-- Read members into a draft in the order in which they stand. -/
def readObject
    (shape : RecordShape δ α)
    (budget : Nat)
    (draft : δ) : Members → Except Fault δ
  | .stop ending => (refuse ending.objectFault?).map fun () => draft
  | .member key _ value tail =>
    match key with
    | .error fault => .error fault
    | .ok name =>
      match shape.fields.find? (·.accepts name) with
      | none =>
        match value.skim with
        | .error fault => .error fault
        | .ok () => readObject shape budget draft tail
      | some field =>
        if field.isSet draft then .error (.duplicateField field.name)
        else
          match field.read budget value draft with
          | .error fault => .error fault
          | .ok draft => readObject shape budget draft tail

/-- Read fields in order from the items of a list. -/
def readFields
    (shape : RecordShape δ α)
    (budget : Nat) : (position : Nat) → List (FieldShape δ) → Items → δ → Except Fault δ
  | _, [], .stop ending, draft => (refuse ending.fullListFault?).map fun () => draft
  | _, [], .item _ _, _ => .error .trailingCharacters
  | position, field :: fields, .item head tail, draft =>
    match field.read budget head draft with
    | .error fault => .error fault
    | .ok draft => readFields shape budget (position + 1) fields tail draft
  | position, field :: fields, .stop ending, draft =>
    match ending.listFault? with
    | some fault => .error fault
    | none =>
      if field.required then .error (.wrongLength position shape.listExpectation)
      else readFields shape budget (position + 1) fields (.stop ending) draft

/-- Read a record from an object or a list, and finish its draft. -/
def read (shape : RecordShape δ α) : Reader α
  | budget, .object members =>
    opening budget fun budget => do
      let draft ← shape.readObject budget shape.blank members
      shape.finish draft
  | budget, .list items =>
    opening budget fun budget => do
      let draft ← shape.readFields budget 0 shape.fields items shape.blank
      shape.finish draft
  | _, source => .error (source.mismatch shape.expectation)

end RecordShape

/-- A field that may not be missing. -/
def require
    {α : Type}
    (name : String)
    (value : Option α) : Except Fault α :=
  match value with
  | some value => .ok value
  | none => .error (.missingField name.toList)

/-- Read the value that makes up a text; only blanks may follow it. -/
def readAll
    {α : Type}
    (read : Reader α)
    (text : Text) : Except Fault α :=
  let (source, rest) := Source.read text
  match read depthLimit source with
  | .error fault => .error fault
  | .ok value =>
    if (dropSpace rest).isEmpty then .ok value else .error .trailingCharacters

/-- The value that a text holds, in canonical form. -/
def parse (text : Text) : Except Fault Json :=
  (readAll Source.toJson text).map canonical

end TechniquePages.Json
