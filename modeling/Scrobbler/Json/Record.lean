import Scrobbler.Json.Parse

/-!
# Reading typed values from JSON text

Readers for strings, booleans, 64-bit integers, binary64 numbers, optional values and records,
straight from the text. Each one skips blanks and looks at the next character. A value of
another kind is still read to its end, so that the error can name it (`invalid type: integer
5, expected a string`) and stand after it; an array or object is named without being read, the
error standing at its bracket.

A record is an object whose keys name its fields, or an array holding its fields in order. A
field the text leaves out keeps the value the record starts from, unless it is required. Keys
that name no field are passed over. An error found on a value already read (a field given
twice or missing, an integer out of range) has no position of its own: it takes the place
where the record's closing step left the cursor.
-/

namespace Scrobbler

namespace Json

open Reader

/-- A number as a signed 64-bit integer: integers in range, nothing else. -/
def Number.toInt64 : Number → Except Problem Int
  | .nat n => if n < Nat.pow 2 63 then .ok n else .error (.invalidValue (.unsigned n) "i64")
  | .neg n => .ok n
  | .float x => .error (.invalidType (.float x) "i64")

/-- A number as a binary64 number: integers are rounded to the nearest. -/
def Number.toBinary64 : Number → Binary64
  | .nat n => Binary64.ofNat n
  | .neg n => Binary64.ofInt n
  | .float x => x

namespace Reader

/-- Fails because the next value is not of the kind `expected` names: a scalar is read first
and the error stands after it; an array or object is named at its bracket. -/
def peekInvalidType (expected : String) : Reader α := do
  let found ← match ← peek with
    | some 'n' => do eat; word ['u', 'l', 'l']; pure Unexpected.null
    | some 't' => do eat; word ['r', 'u', 'e']; pure (Unexpected.bool true)
    | some 'f' => do eat; word ['a', 'l', 's', 'e']; pure (Unexpected.bool false)
    | some '"' => do eat; pure (Unexpected.string (← readStringBody))
    | some '[' => pure Unexpected.sequence
    | some '{' => pure Unexpected.map
    | some c =>
      if c = '-' ∨ isDigit c then do pure (← signedNumber).unexpected
      else failAhead .expectedSomeValue
    | none => failAhead .expectedSomeValue
  throw { problem := .invalidType found expected, position := some (← here) }

/-- Skips blanks and gives the next character; the end of the text is an error, as a value is
due. -/
def valueAhead : Reader Char := do
  match ← peekPastBlank with
  | some c => pure c
  | none => failAhead .eofWhileParsingValue

/-- Reads a string. -/
def readString : Reader String := do
  if (← valueAhead) = '"' then do eat; readStringBody
  else peekInvalidType "a string"

/-- Reads `true` or `false`. -/
def readBool : Reader Bool := do
  let c ← valueAhead
  if c = 't' then do eat; word ['r', 'u', 'e']; pure true
  else if c = 'f' then do eat; word ['a', 'l', 's', 'e']; pure false
  else peekInvalidType "a boolean"

/-- Reads a number and converts it; a number that does not convert is an error standing
after it. -/
def readNumberAs (expected : String) (convert : Number → Except Problem α) : Reader α := do
  let c ← valueAhead
  if c = '-' ∨ isDigit c then
    match convert (← signedNumber) with
    | .ok a => pure a
    | .error p => throw { problem := p, position := some (← here) }
  else peekInvalidType expected

/-- Reads a signed 64-bit integer. -/
def readInt64 : Reader Int := readNumberAs "i64" Number.toInt64

/-- Reads a binary64 number; integers are accepted. -/
def readBinary64 : Reader Binary64 := readNumberAs "f64" (fun n => .ok n.toBinary64)

/-- Reads `null` as nothing, and anything else with `r`. -/
def readOption (r : Reader α) : Reader (Option α) := do
  match ← peekPastBlank with
  | some 'n' => do eat; word ['u', 'l', 'l']; pure none
  | _ => some <$> r

/-- Reads any value and decodes it; a value that fits no form of the enumeration `name` is an
error that the enclosing record places. -/
def readUntagged (name : String) (decode : Value → Option α) : Reader α := do
  match decode (← readRaw) with
  | some a => pure a
  | none => reject (.noVariantMatches name)

end Reader

/-- A field of a record read from JSON text. -/
structure Field (β : Type) where
  /-- The key that names it. -/
  name : String
  /-- Whether the record cannot do without it; a field that may be left out keeps the value
  the record starts from. -/
  required : Bool := false
  /-- Reads the field's value and stores it in the record. -/
  read : β → Reader β

/-- How a record is read from JSON text. -/
structure RecordShape (β : Type) where
  /-- The record's name in messages. -/
  name : String
  /-- Its fields, in the order an array gives them. -/
  fields : List (Field β)
  /-- The value fields are stored into. -/
  start : β

namespace RecordShape

/-- How an error names what the record expects. -/
def expected (r : RecordShape β) : String := "struct " ++ r.name

/-- Reads the fields from the items of an array, in order; an array that ends early leaves
the rest of the fields out. -/
def fromItems (r : RecordShape β) : List (Field β) → Nat → Bool → β → Reader β
  | [], _, _, acc => pure acc
  | f :: fs, i, first, acc => do
    if ← nextItem first then do
      let acc ← f.read acc
      r.fromItems fs (i + 1) false acc
    else if f.required then
      reject (.invalidLength i (r.expected ++ " with " ++ toString r.fields.length ++ " elements"))
    else r.fromItems fs (i + 1) first acc

/-- Reads the fields from the members of an object; `seen` holds the keys of fields read. -/
def fromMembers (r : RecordShape β) : Nat → Bool → List String → β → Reader β
  | 0, _, _, _ => fail .recursionLimitExceeded
  | fuel + 1, first, seen, acc => do
    if ← nextMember first then
      let k ← key
      match r.fields.find? (·.name == k) with
      | some f =>
        if seen.contains k then reject (.duplicateField k)
        else do
          colon
          let acc ← f.read acc
          r.fromMembers fuel false (k :: seen) acc
      | none => do
        colon
        skipValue
        r.fromMembers fuel false seen acc
    else
      match r.fields.find? (fun f => f.required && !seen.contains f.name) with
      | some f => reject (.missingField f.name)
      | none => pure acc

/-- Reads the record from an array or an object. -/
def read (r : RecordShape β) : Reader β := do
  let c ← valueAhead
  if c = '[' then nested (r.fromItems r.fields 0 true r.start) closeArray
  else if c = '{' then do
    let fuel ← restFuel
    nested (r.fromMembers fuel true [] r.start) closeObject
  else peekInvalidType r.expected

end RecordShape

end Json

end Scrobbler
