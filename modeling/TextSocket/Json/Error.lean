import TextSocket.Decimal.Shortest
import TextSocket.Text.Quoted

/-!
# `TextSocket.Json.Error` — what can be wrong with a JSON document

A document is refused for one cause, at one place. The place is a line, counted from one, and a column: the
number of bytes between the start of the line and the point that the reader had reached.

## Contents

* `Json.Shape` — what a reader found where it expected something else;
* `Json.Fault` — the causes;
* `Json.Error` — a cause and its place, with its wording `Error.message`.
-/

namespace TextSocket.Json

/-! ## Causes -/

/-- A value that was found where another kind of value was expected. -/
inductive Shape where
  /-- `null` -/
  | null
  /-- `true` or `false` -/
  | boolean (value : Bool)
  /-- A number written as a whole number that fits into 64 bits. -/
  | integer (value : Int)
  /-- Any other number. -/
  | real (value : Float)
  /-- A string. -/
  | text (value : String)
  /-- A list, of which only the bracket has been seen. -/
  | list
  /-- An object, of which only the brace has been seen. -/
  | object

/-- Numbers are shown positionally from `1e-5` up to below `1e16`. -/
def realLayout : Decimal.Layout := ⟨-5, 15, "e", "+"⟩

namespace Shape

/-- The wording of what was found. -/
def describe : Shape → String
  | null => "null"
  | boolean value => "boolean `" ++ (if value then "true" else "false") ++ "`"
  | integer value => "integer `" ++ toString value ++ "`"
  | real value => "floating point `" ++ realLayout.real value ++ "`"
  | text value => "string " ++ Text.quoted value
  | list => "sequence"
  | object => "map"

end Shape

/-- Why a document is refused. -/
inductive Fault where
  /-- The text ends where a value should be. -/
  | endInValue
  /-- The text ends within a string. -/
  | endInString
  /-- The text ends within a list. -/
  | endInList
  /-- The text ends within an object. -/
  | endInObject
  /-- A key has no colon after it. -/
  | noColon
  /-- An element has neither a comma nor a bracket after it. -/
  | noCommaInList
  /-- A member has neither a comma nor a brace after it. -/
  | noCommaInObject
  /-- A word that starts like a literal is none. -/
  | badLiteral
  /-- No value starts with this character. -/
  | noValue
  /-- A backslash that starts no escape. -/
  | badEscape
  /-- A number that breaks off or starts with a zero too many. -/
  | badNumber
  /-- A number beyond the range of floating point. -/
  | numberOutOfRange
  /-- A member that does not start with a string. -/
  | badKey
  /-- A control character within a string. -/
  | controlInString
  /-- Half of a surrogate pair. -/
  | loneSurrogate
  /-- The second half of a surrogate pair is missing. -/
  | pairBreaksOff
  /-- A comma with nothing after it. -/
  | trailingComma
  /-- Something follows the end. -/
  | trailingCharacters
  /-- A value of another type than expected. -/
  | wrongType (found : Shape) (expected : String)
  /-- A value of the right type outside its range. -/
  | wrongValue (found : Shape) (expected : String)
  /-- A known member stands twice. -/
  | duplicateField (name : String)
  /-- A string that its reader refuses, for the reason given. -/
  | refused (reason : String)

namespace Fault

/-- The wording of a cause. -/
def message : Fault → String
  | endInValue => "EOF while parsing a value"
  | endInString => "EOF while parsing a string"
  | endInList => "EOF while parsing a list"
  | endInObject => "EOF while parsing an object"
  | noColon => "expected `:`"
  | noCommaInList => "expected `,` or `]`"
  | noCommaInObject => "expected `,` or `\x7d`"
  | badLiteral => "expected ident"
  | noValue => "expected value"
  | badEscape => "invalid escape"
  | badNumber => "invalid number"
  | numberOutOfRange => "number out of range"
  | badKey => "key must be a string"
  | controlInString => "control character (\\u0000-\\u001F) found while parsing a string"
  | loneSurrogate => "lone leading surrogate in hex escape"
  | pairBreaksOff => "unexpected end of hex escape"
  | trailingComma => "trailing comma"
  | trailingCharacters => "trailing characters"
  | wrongType found expected => "invalid type: " ++ found.describe ++ ", expected " ++ expected
  | wrongValue found expected => "invalid value: " ++ found.describe ++ ", expected " ++ expected
  | duplicateField name => "duplicate field `" ++ name ++ "`"
  | refused reason => reason

end Fault

/-! ## Causes with their place -/

/-- A refused document: the cause and the place. -/
structure Error where
  /-- Why the document is refused. -/
  fault : Fault
  /-- The line, counted from one. -/
  line : Nat
  /-- The number of bytes read of that line. -/
  column : Nat

namespace Error

/-- The wording of a refusal. -/
def message (e : Error) : String :=
  e.fault.message ++ " at line " ++ toString e.line ++ " column " ++ toString e.column

end Error

end TextSocket.Json
