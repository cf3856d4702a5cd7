import Scrobbler.Json.Value
import Scrobbler.Text.Debug

/-!
# Errors of reading JSON

Reading JSON text can fail on its syntax or on its content: a value of a kind that the reader
does not expect, an array too short or too long for a record, a record field missing or given
twice, an enumeration none of whose forms fits. An error found while the text is read carries
the line and column where reading stood: lines count from one, columns count the bytes read on
the line. An error found on a value already read has no position until the reader of the
enclosing record gives it its own.
-/

namespace Scrobbler

namespace Json

/-- A fault in the syntax of JSON text. -/
inductive Fault where
  /-- The text ends inside an array. -/
  | eofWhileParsingList
  /-- The text ends inside an object. -/
  | eofWhileParsingObject
  /-- The text ends inside a string. -/
  | eofWhileParsingString
  /-- The text ends where a value is due. -/
  | eofWhileParsingValue
  /-- No colon after a key. -/
  | expectedColon
  /-- Neither a comma nor `]` after an item. -/
  | expectedListCommaOrEnd
  /-- Neither a comma nor `}` after a member. -/
  | expectedObjectCommaOrEnd
  /-- A misspelt `null`, `true` or `false`. -/
  | expectedSomeIdent
  /-- No value where one is due. -/
  | expectedSomeValue
  /-- A backslash followed by something else than an escape. -/
  | invalidEscape
  /-- A malformed number. -/
  | invalidNumber
  /-- A number too large for a binary64 number. -/
  | numberOutOfRange
  /-- A trailing surrogate escape alone, or a leading one followed by a non-surrogate. -/
  | loneLeadingSurrogateInHexEscape
  /-- A control character inside a string. -/
  | controlCharacterWhileParsingString
  /-- A member that does not start with a string. -/
  | keyMustBeAString
  /-- A comma before `]` or `}`. -/
  | trailingComma
  /-- Text after the value. -/
  | trailingCharacters
  /-- A leading surrogate escape not followed by a second escape. -/
  | unexpectedEndOfHexEscape
  /-- Arrays and objects nested too deep. -/
  | recursionLimitExceeded
  deriving DecidableEq, Repr

/-- The wording of a syntax fault. -/
def Fault.message : Fault → String
  | .eofWhileParsingList => "EOF while parsing a list"
  | .eofWhileParsingObject => "EOF while parsing an object"
  | .eofWhileParsingString => "EOF while parsing a string"
  | .eofWhileParsingValue => "EOF while parsing a value"
  | .expectedColon => "expected `:`"
  | .expectedListCommaOrEnd => "expected `,` or `]`"
  | .expectedObjectCommaOrEnd => "expected `,` or `\x7d`"
  | .expectedSomeIdent => "expected ident"
  | .expectedSomeValue => "expected value"
  | .invalidEscape => "invalid escape"
  | .invalidNumber => "invalid number"
  | .numberOutOfRange => "number out of range"
  | .loneLeadingSurrogateInHexEscape => "lone leading surrogate in hex escape"
  | .controlCharacterWhileParsingString =>
    "control character (\\u0000-\\u001F) found while parsing a string"
  | .keyMustBeAString => "key must be a string"
  | .trailingComma => "trailing comma"
  | .trailingCharacters => "trailing characters"
  | .unexpectedEndOfHexEscape => "unexpected end of hex escape"
  | .recursionLimitExceeded => "recursion limit exceeded"

/-- A value met where another kind was expected, as an error names it. -/
inductive Unexpected where
  /-- `null`. -/
  | null
  /-- A boolean. -/
  | bool (b : Bool)
  /-- A non-negative integer. -/
  | unsigned (n : Nat)
  /-- A negative integer. -/
  | signed (n : Int)
  /-- A binary64 number. -/
  | float (x : Binary64)
  /-- A string. -/
  | string (s : String)
  /-- An array. -/
  | sequence
  /-- An object. -/
  | map

/-- How an error names an unexpected value. -/
def Unexpected.describe : Unexpected → String
  | .null => "null"
  | .bool b => "boolean `" ++ (if b then "true" else "false") ++ "`"
  | .unsigned n => "integer `" ++ toString n ++ "`"
  | .signed n => "integer `" ++ toString n ++ "`"
  | .float x => "floating point `" ++ Binary64.toText Binary64.jsonStyle x ++ "`"
  | .string s => "string " ++ Text.debugQuote s
  | .sequence => "sequence"
  | .map => "map"

/-- How a number is named when it is unexpected. -/
def Number.unexpected : Number → Unexpected
  | .nat n => .unsigned n
  | .neg n => .signed n
  | .float x => .float x

/-- How a value is named when it is unexpected. -/
def Value.unexpected : Value → Unexpected
  | .null => .null
  | .bool b => .bool b
  | .number n => n.unexpected
  | .string s => .string s
  | .array _ => .sequence
  | .object _ => .map

/-- What went wrong. -/
inductive Problem where
  /-- A fault in the syntax. -/
  | fault (s : Fault)
  /-- A value of the wrong kind. -/
  | invalidType (found : Unexpected) (expected : String)
  /-- A value of the right kind out of range. -/
  | invalidValue (found : Unexpected) (expected : String)
  /-- An array of the wrong length. -/
  | invalidLength (length : Nat) (expected : String)
  /-- A record field that is not given. -/
  | missingField (name : String)
  /-- A record field given twice. -/
  | duplicateField (name : String)
  /-- A value that fits none of the forms of an enumeration. -/
  | noVariantMatches (name : String)
  /-- A message of the reader of one value. -/
  | custom (text : String)

/-- The wording of a problem. -/
def Problem.message : Problem → String
  | .fault s => s.message
  | .invalidType u e => "invalid type: " ++ u.describe ++ ", expected " ++ e
  | .invalidValue u e => "invalid value: " ++ u.describe ++ ", expected " ++ e
  | .invalidLength n e => "invalid length " ++ toString n ++ ", expected " ++ e
  | .missingField name => "missing field `" ++ name ++ "`"
  | .duplicateField name => "duplicate field `" ++ name ++ "`"
  | .noVariantMatches name => "data did not match any variant of untagged enum " ++ name
  | .custom text => text

/-- A line and a column of JSON text. -/
structure Position where
  /-- The line, counted from one. -/
  line : Nat
  /-- The bytes read on the line. -/
  column : Nat
  deriving DecidableEq, Repr

/-- An error of reading JSON, with the position where it was found when there is one. -/
structure Error where
  /-- What went wrong. -/
  problem : Problem
  /-- Where, for an error found while the text was read. -/
  position : Option Position := none

/-- The wording of an error, with its position. -/
def Error.message (e : Error) : String :=
  match e.position with
  | some p => e.problem.message ++ " at line " ++ toString p.line ++ " column " ++ toString p.column
  | none => e.problem.message

end Json

end Scrobbler
