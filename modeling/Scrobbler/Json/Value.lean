import Scrobbler.Binary64.Text

/-!
# JSON values

A JSON value as this library reads and writes it. A number keeps the kind it was read as: a
non-negative integer below `2^64`, a negative integer down to `-2^63`, or a binary64 number
(anything with a fraction or an exponent, and integers outside those ranges). An object is a
list of members in the order they were read, duplicates included; `Value.normalize` turns it
into the form a key-value map has, keys sorted and each key with its last value.

The compact text of a value (`Value.render`) has no blanks, escapes in strings only what JSON
requires (the quote, the backslash and the control characters, as `\b`, `\f`, `\n`, `\r`,
`\t` or `\u00xx`), and writes numbers as they were read, binary64 numbers in their shortest
form (`Binary64.jsonStyle`).
-/

namespace Scrobbler

namespace Json

/-- A JSON number, by the kind it was read as. -/
inductive Number where
  /-- A non-negative integer below `2^64`. -/
  | nat (n : Nat)
  /-- A negative integer, at least `-2^63`. -/
  | neg (n : Int)
  /-- A binary64 number. -/
  | float (x : Binary64)
  deriving DecidableEq, Inhabited

/-- A JSON value. -/
inductive Value where
  /-- `null`. -/
  | null
  /-- `true` or `false`. -/
  | bool (b : Bool)
  /-- A number. -/
  | number (n : Number)
  /-- A string. -/
  | string (s : String)
  /-- An array. -/
  | array (items : List Value)
  /-- An object: its members in order, a key possibly repeated. -/
  | object (members : List (String × Value))
  deriving Inhabited

/-- The number of an integer, by its sign. -/
def Number.ofInt (n : Int) : Number := if n < 0 then .neg n else .nat n.toNat

namespace Value

/-- Puts a member into members sorted by key, replacing the value of an equal key. -/
def insertSorted (k : String) (v : Value) : List (String × Value) → List (String × Value)
  | [] => [(k, v)]
  | (k', v') :: rest =>
    if k = k' then (k, v) :: rest
    else if k < k' then (k, v) :: (k', v') :: rest
    else (k', v') :: insertSorted k v rest

mutual
/-- The value as a key-value map has it: every object's keys sorted, each with its last
value. -/
def normalize : Value → Value
  | .array items => .array (normalizeList items)
  | .object members => .object (normalizeMembers [] members)
  | v => v

/-- `normalize` on every item. -/
def normalizeList : List Value → List Value
  | [] => []
  | v :: rest => normalize v :: normalizeList rest

/-- Inserts normalized members one after the other, so a later duplicate wins. -/
def normalizeMembers (acc : List (String × Value)) : List (String × Value) → List (String × Value)
  | [] => acc
  | (k, v) :: rest => normalizeMembers (insertSorted k (normalize v) acc) rest
end

/-- The value of the last member with the key, for an object. -/
def get? (v : Value) (key : String) : Option Value :=
  match v with
  | .object members => (members.filter (·.1 == key)).getLast?.map (·.2)
  | _ => none

/-- The text, for a string. -/
def asString? : Value → Option String
  | .string s => some s
  | _ => none

end Value

/-- The four hexadecimal digits of a control character in `\u00xx`. -/
def hex4 (n : Nat) : List Char :=
  let hex := "0123456789abcdef".toList
  [hex.getD (n / 4096 % 16) '0', hex.getD (n / 256 % 16) '0', hex.getD (n / 16 % 16) '0',
    hex.getD (n % 16) '0']

/-- How one character is written inside a JSON string. -/
def escapeChar (c : Char) : List Char :=
  if c = '"' then ['\\', '"']
  else if c = '\\' then ['\\', '\\']
  else if c = '\n' then ['\\', 'n']
  else if c = '\r' then ['\\', 'r']
  else if c = '\t' then ['\\', 't']
  else if c = '\x08' then ['\\', 'b']
  else if c = '\x0c' then ['\\', 'f']
  else if c.toNat < 0x20 then ['\\', 'u'] ++ hex4 c.toNat
  else [c]

/-- A string as a JSON string literal. -/
def quote (s : String) : String :=
  String.ofList ('"' :: s.toList.flatMap escapeChar ++ ['"'])

/-- The text of a number. -/
def Number.render : Number → String
  | .nat n => toString n
  | .neg n => toString n
  | .float x => if x.isFinite then Binary64.toText Binary64.jsonStyle x else "null"

mutual
/-- The compact text of a value. -/
def Value.render : Value → String
  | .null => "null"
  | .bool b => if b then "true" else "false"
  | .number n => n.render
  | .string s => quote s
  | .array items => "[" ++ ",".intercalate (Value.renderList items) ++ "]"
  | .object members => "\x7b" ++ ",".intercalate (Value.renderMembers members) ++ "\x7d"

/-- The texts of the items of an array. -/
def Value.renderList : List Value → List String
  | [] => []
  | v :: rest => v.render :: Value.renderList rest

/-- The texts of the members of an object. -/
def Value.renderMembers : List (String × Value) → List String
  | [] => []
  | (k, v) :: rest => (quote k ++ ":" ++ v.render) :: Value.renderMembers rest
end

end Json

end Scrobbler
