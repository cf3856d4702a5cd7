import Scrobbler.Json.Record

/-!
# Decoding typed values from JSON values

Decoding works on a value already read, so its errors carry no position. A record is decoded
from an object, whose keys name its fields, or from an array holding its fields in order; an
array may leave trailing fields out but may not hold more items than the record has fields.
Keys that name no field are passed over, and a key given twice is an error. A record may also
be declared to take objects only.

An object decoded as a record is read member by member in the order the value holds them: a
value read as a key-value map (`Value.normalize`) has its keys sorted, so the first field in
key order that fails decides the error.
-/

namespace Scrobbler

namespace Json

/-- Decodes a signed 64-bit integer. -/
def Value.toInt64 : Value → Except Problem Int
  | .number n => n.toInt64
  | v => .error (.invalidType v.unexpected "i64")

/-- Decodes a binary64 number; integers are rounded to the nearest. -/
def Value.toBinary64 : Value → Except Problem Binary64
  | .number n => .ok n.toBinary64
  | v => .error (.invalidType v.unexpected "f64")

/-- A field of a record decoded from a value. -/
structure TreeField (β : Type) where
  /-- The key that names it. -/
  name : String
  /-- Decodes the field's value and stores it in the record. -/
  decode : β → Value → Except Problem β

/-- How a record is decoded from a value; every field may be left out. -/
structure TreeShape (β : Type) where
  /-- The record's name in messages. -/
  name : String
  /-- Its fields, in the order an array gives them. -/
  fields : List (TreeField β)
  /-- The value fields are stored into. -/
  start : β
  /-- Whether an array holding the fields in order is accepted as well as an object. A form of
  an enumeration whose forms are tried in turn takes objects only. -/
  fromArray : Bool := true

namespace TreeShape

/-- Decodes fields from items in order; gives the items left over. -/
def fromItems : List (TreeField β) → List Value → β → Except Problem (β × List Value)
  | [], rest, acc => .ok (acc, rest)
  | _ :: _, [], acc => .ok (acc, [])
  | f :: fs, v :: vs, acc => do
    let acc ← f.decode acc v
    fromItems fs vs acc

/-- Decodes fields from members in order; `seen` holds the keys of fields decoded. -/
def fromMembers (fields : List (TreeField β)) (seen : List String) :
    List (String × Value) → β → Except Problem β
  | [], acc => .ok acc
  | (k, v) :: rest, acc =>
    match fields.find? (·.name == k) with
    | some f =>
      if seen.contains k then .error (.duplicateField k)
      else do
        let acc ← f.decode acc v
        fromMembers fields (k :: seen) rest acc
    | none => fromMembers fields seen rest acc

/-- Decodes a record from an array or an object. -/
def decode (r : TreeShape β) : Value → Except Problem β
  | .array items =>
    if r.fromArray then do
      let (acc, rest) ← fromItems r.fields items r.start
      if rest.isEmpty then .ok acc
      else .error (.invalidLength items.length "fewer elements in array")
    else .error (.invalidType (Value.array items).unexpected ("struct " ++ r.name))
  | .object members => fromMembers r.fields [] members r.start
  | v => .error (.invalidType v.unexpected ("struct " ++ r.name))

end TreeShape

end Json

end Scrobbler
