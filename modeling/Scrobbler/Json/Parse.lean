import Scrobbler.Json.Scalar

/-!
# Reading JSON values

A value is read by the kind its first character announces: `null`, `true`, `false`, a number,
a string, an array or an object. Arrays and objects may nest 127 deep; a deeper one fails at
its opening bracket.

Items of an array and members of an object are separated by commas. The reader that moves
between them (`nextItem`, `nextMember`) stops at the closing bracket without consuming it: the
closing step (`closeArray`, `closeObject`) consumes it, and also judges what a reader that
stopped early left behind. That split is what lets a record read a fixed number of items and
then complain about the rest.

`readRaw` keeps an object's members in the order read, duplicates included; `Value.parse`
reads a whole text as a key-value map does, keys sorted and the last of equal keys kept.

`skipValue` passes over a value that is not kept. It checks the syntax but not the escapes'
meaning, and has no nesting limit.
-/

namespace Scrobbler

namespace Json

open Reader

namespace Reader

/-- Runs the reader of an array's or object's contents between the brackets: `enter` takes the
opening bracket, `close` runs after the contents whatever their outcome, the contents' error
wins over the closing one, and an error that has no position yet takes the cursor's. -/
def nested (body : Reader α) (close : Reader Unit) : Reader α := do
  enter
  let r ← attempt body
  leave
  let c ← attempt close
  match r, c with
  | .ok a, .ok () => pure a
  | .error e, _ => throw (← placeHere e)
  | .ok _, .error e => throw (← placeHere e)

/-- Moves to the next item of an array: `false` at the closing bracket, `true` before an item,
past the comma that follows the previous one. -/
def nextItem (first : Bool) : Reader Bool := do
  match ← peekPastBlank with
  | some ']' => pure false
  | some ',' => if first then pure true else do eat; afterComma
  | some _ => if first then pure true else failAhead .expectedListCommaOrEnd
  | none => failAhead .eofWhileParsingList
where
  /-- After a comma an item must follow. -/
  afterComma : Reader Bool := do
    match ← peekPastBlank with
    | some ']' => failAhead .trailingComma
    | some _ => pure true
    | none => failAhead .eofWhileParsingValue

/-- Moves to the next member of an object: `false` at the closing brace, `true` at the quote
that opens its key, past the comma that follows the previous member. -/
def nextMember (first : Bool) : Reader Bool := do
  match ← peekPastBlank with
  | some '}' => pure false
  | some ',' => if first then atKey else do eat; atKey
  | some _ => if first then atKey else failAhead .expectedObjectCommaOrEnd
  | none => failAhead .eofWhileParsingObject
where
  /-- A key must be a string. -/
  atKey : Reader Bool := do
    match ← peekPastBlank with
    | some '"' => pure true
    | some '}' => failAhead .trailingComma
    | some _ => failAhead .keyMustBeAString
    | none => failAhead .eofWhileParsingValue

/-- Reads a key at its opening quote. -/
def key : Reader String := do
  eat
  readStringBody

/-- Consumes the colon after a key. -/
def colon : Reader Unit := do
  match ← peekPastBlank with
  | some ':' => eat
  | some _ => failAhead .expectedColon
  | none => failAhead .eofWhileParsingObject

/-- Consumes the bracket that closes an array; items left unread are an error. -/
def closeArray : Reader Unit := do
  match ← peekPastBlank with
  | some ']' => eat
  | some ',' => do
    eat
    match ← peekPastBlank with
    | some ']' => failAhead .trailingComma
    | _ => failAhead .trailingCharacters
  | some _ => failAhead .trailingCharacters
  | none => failAhead .eofWhileParsingList

/-- Consumes the brace that closes an object; members left unread are an error. -/
def closeObject : Reader Unit := do
  match ← peekPastBlank with
  | some '}' => eat
  | some ',' => failAhead .trailingComma
  | some _ => failAhead .trailingCharacters
  | none => failAhead .eofWhileParsingObject

/-- Reads a number at its first character, a minus sign or a digit. -/
def signedNumber : Reader Number := do
  match ← peek with
  | some '-' => do eat; readNumber false
  | _ => readNumber true

/-- The fuel for reading one value: each step of the readers below consumes a character or
is followed by one that does. -/
def valueFuel : Reader Nat := do return 2 * (← get).rest.length + 2

mutual
/-- Reads any value, an object with its members as read. -/
def rawValue : Nat → Reader Value
  | 0 => fail .recursionLimitExceeded
  | fuel + 1 => do
    match ← peekPastBlank with
    | none => failAhead .eofWhileParsingValue
    | some c =>
      if c = 'n' then do eat; word ['u', 'l', 'l']; pure .null
      else if c = 't' then do eat; word ['r', 'u', 'e']; pure (.bool true)
      else if c = 'f' then do eat; word ['a', 'l', 's', 'e']; pure (.bool false)
      else if c = '-' ∨ isDigit c then return .number (← signedNumber)
      else if c = '"' then do eat; return .string (← readStringBody)
      else if c = '[' then return .array (← nested (rawItems fuel true) closeArray)
      else if c = '{' then return .object (← nested (rawMembers fuel true) closeObject)
      else failAhead .expectedSomeValue

/-- Reads the items of an array up to its closing bracket. -/
def rawItems : Nat → Bool → Reader (List Value)
  | 0, _ => fail .recursionLimitExceeded
  | fuel + 1, first => do
    if ← nextItem first then
      let v ← rawValue fuel
      let rest ← rawItems fuel false
      pure (v :: rest)
    else pure []

/-- Reads the members of an object up to its closing brace. -/
def rawMembers : Nat → Bool → Reader (List (String × Value))
  | 0, _ => fail .recursionLimitExceeded
  | fuel + 1, first => do
    if ← nextMember first then
      let k ← key
      colon
      let v ← rawValue fuel
      let rest ← rawMembers fuel false
      pure ((k, v) :: rest)
    else pure []
end

/-- Reads any value, an object with its members as read, duplicates included. -/
def readRaw : Reader Value := do rawValue (← valueFuel)

mutual
/-- Passes over a value. -/
def skipWithin : Nat → Reader Unit
  | 0 => fail .recursionLimitExceeded
  | fuel + 1 => do
    match ← peekPastBlank with
    | none => failAhead .eofWhileParsingValue
    | some c =>
      if c = 'n' then do eat; word ['u', 'l', 'l']
      else if c = 't' then do eat; word ['r', 'u', 'e']
      else if c = 'f' then do eat; word ['a', 'l', 's', 'e']
      else if c = '-' then do eat; skipNumber
      else if isDigit c then skipNumber
      else if c = '"' then do eat; skipStringBody
      else if c = '[' then do eat; skipItems fuel true
      else if c = '{' then do eat; skipMembers fuel true
      else failAhead .expectedSomeValue

/-- Passes over the items of an array and its closing bracket. -/
def skipItems : Nat → Bool → Reader Unit
  | 0, _ => fail .recursionLimitExceeded
  | fuel + 1, first => do
    match ← peekPastBlank with
    | some ']' => eat
    | some ',' =>
      if first then do skipWithin fuel; skipItems fuel false
      else do eat; skipWithin fuel; skipItems fuel false
    | some _ =>
      if first then do skipWithin fuel; skipItems fuel false
      else failAhead .expectedListCommaOrEnd
    | none => failAhead .eofWhileParsingList

/-- Passes over the members of an object and its closing brace. -/
def skipMembers : Nat → Bool → Reader Unit
  | 0, _ => fail .recursionLimitExceeded
  | fuel + 1, first => do
    match ← peekPastBlank with
    | some '}' => eat
    | some ',' =>
      if first then skipMember fuel
      else do eat; skipMember fuel
    | some _ =>
      if first then skipMember fuel
      else failAhead .expectedObjectCommaOrEnd
    | none => failAhead .eofWhileParsingObject

/-- Passes over a key, its colon, its value and the members after it. -/
def skipMember : Nat → Reader Unit
  | 0 => fail .recursionLimitExceeded
  | fuel + 1 => do
    match ← peekPastBlank with
    | some '"' => do eat; skipStringBody
    | some _ => failAhead .keyMustBeAString
    | none => failAhead .eofWhileParsingObject
    colon
    skipWithin fuel
    skipMembers fuel false
end

/-- Passes over a value. -/
def skipValue : Reader Unit := do skipWithin (← valueFuel)

/-- Fails unless only blanks are left. -/
def finish : Reader Unit := do
  match ← peekPastBlank with
  | some _ => failAhead .trailingCharacters
  | none => pure ()

/-- Reads a whole text with a reader: the reader's value, or the first error. -/
def runOn (r : Reader α) (text : String) : Except Error α :=
  match (do let a ← r; finish; pure a).run (Cursor.ofString text) with
  | .ok a _ => .ok a
  | .error e _ => .error e

end Reader

/-- Reads a JSON text into a value: objects as key-value maps, keys sorted and the last of
equal keys kept. -/
def Value.parse (text : String) : Except Error Value :=
  (Reader.runOn Reader.readRaw text).map Value.normalize

end Json

end Scrobbler
