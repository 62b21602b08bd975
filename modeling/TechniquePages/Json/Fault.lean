import TechniquePages.Text

/-!
# Faults of a JSON text

Why a JSON text is refused.  Some faults are of the text itself, the others
say that a well-formed value is not what its place in a record calls for.
Each has one wording.
-/

namespace TechniquePages.Json

/-- What a JSON value looks like where another kind of value is expected. -/
inductive Shape where
  | null
  | boolean (value : Bool)
  | integer (value : Int)
  | double (written : Text)
  | text (quoted : Text)
  | sequence
  | map
  deriving DecidableEq

/-- A value as a message shows it; a text is quoted already. -/
def Shape.message : Shape → Text
  | .null => "null".toList
  | .boolean true => "boolean `true`".toList
  | .boolean false => "boolean `false`".toList
  | .integer value => "integer `".toList ++ Text.ofInt value ++ "`".toList
  | .double written => "floating point `".toList ++ written ++ "`".toList
  | .text quoted => "string ".toList ++ quoted
  | .sequence => "sequence".toList
  | .map => "map".toList

/-- Why a JSON text is refused. -/
inductive Fault where
  | endInList
  | endInObject
  | endInString
  | endInValue
  | expectedColon
  | expectedListSeparator
  | expectedObjectSeparator
  | expectedWord
  | expectedValue
  | invalidEscape
  | invalidNumber
  | numberOutOfRange
  | controlCharacter
  | keyNotString
  | loneSurrogate
  | unfinishedSurrogate
  | trailingComma
  | trailingCharacters
  | tooDeep
  | wrongType (found : Shape) (expected : Text)
  | wrongLength (length : Nat) (expected : Text)
  | missingField (name : Text)
  | duplicateField (name : Text)
  | unnamedExecutor
  | notScalar (written : Text)
  deriving DecidableEq

/-- The wording of a fault. -/
def Fault.message : Fault → Text
  | .endInList => "EOF while parsing a list".toList
  | .endInObject => "EOF while parsing an object".toList
  | .endInString => "EOF while parsing a string".toList
  | .endInValue => "EOF while parsing a value".toList
  | .expectedColon => "expected `:`".toList
  | .expectedListSeparator => "expected `,` or `]`".toList
  | .expectedObjectSeparator => "expected `,` or `\x7d`".toList
  | .expectedWord => "expected ident".toList
  | .expectedValue => "expected value".toList
  | .invalidEscape => "invalid escape".toList
  | .invalidNumber => "invalid number".toList
  | .numberOutOfRange => "number out of range".toList
  | .controlCharacter =>
    "control character (\\u0000-\\u001F) found while parsing a string".toList
  | .keyNotString => "key must be a string".toList
  | .loneSurrogate => "lone leading surrogate in hex escape".toList
  | .unfinishedSurrogate => "unexpected end of hex escape".toList
  | .trailingComma => "trailing comma".toList
  | .trailingCharacters => "trailing characters".toList
  | .tooDeep => "recursion limit exceeded".toList
  | .wrongType found expected =>
    "invalid type: ".toList ++ found.message ++ ", expected ".toList ++ expected
  | .wrongLength length expected =>
    "invalid length ".toList ++ Text.ofNat length ++ ", expected ".toList ++ expected
  | .missingField name => "missing field `".toList ++ name ++ "`".toList
  | .duplicateField name => "duplicate field `".toList ++ name ++ "`".toList
  | .unnamedExecutor => "executor name must not be empty".toList
  | .notScalar written =>
    "expected a string, number, or boolean but found ".toList ++ written

end TechniquePages.Json
