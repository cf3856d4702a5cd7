/-!
# Sets of code points

A character property from the Unicode data files is a set of code points, and such a set is
a short list of sorted, disjoint, inclusive ranges. `CodeRanges` keeps the ranges in an array
and answers membership by binary search. A table is written compactly as text: hexadecimal
code points or ranges `a-b`, separated by commas.
-/

namespace Scrobbler

namespace Text

/-- A set of code points: sorted, disjoint, inclusive ranges. -/
structure CodeRanges where
  /-- The ranges, lowest first. -/
  ranges : Array (Nat × Nat)

namespace CodeRanges

/-- The value of a hexadecimal digit. -/
def hexDigit? (c : Char) : Option Nat :=
  if '0' ≤ c ∧ c ≤ '9' then some (c.toNat - '0'.toNat)
  else if 'A' ≤ c ∧ c ≤ 'F' then some (c.toNat - 'A'.toNat + 10)
  else if 'a' ≤ c ∧ c ≤ 'f' then some (c.toNat - 'a'.toNat + 10)
  else none

/-- The number written by hexadecimal digits; other characters are skipped. -/
def hexValue (s : String) : Nat :=
  s.toList.foldl (fun n c => match hexDigit? c with | some d => 16 * n + d | none => n) 0

/-- One entry of a table's text: a code point `a` or a range `a-b`. -/
def entry (t : String) : Nat × Nat :=
  match t.splitOn "-" with
  | [a, b] => (hexValue a, hexValue b)
  | _ => (hexValue t, hexValue t)

/-- The set a table's text describes. -/
def ofText (t : String) : CodeRanges :=
  ⟨((t.splitOn ",").filter (fun e => !e.isEmpty)).toArray.map entry⟩

/-- Whether a code point lies in one of the ranges between indices `lo` and `hi`. -/
def containsBetween (r : CodeRanges) (c lo hi : Nat) : Bool :=
  if lo < hi then
    let mid := (lo + hi) / 2
    let (a, b) := r.ranges.getD mid (0, 0)
    if c < a then r.containsBetween c lo mid
    else if b < c then r.containsBetween c (mid + 1) hi
    else true
  else false
termination_by hi - lo

/-- Whether a code point belongs to the set. -/
def contains (r : CodeRanges) (c : Nat) : Bool :=
  r.containsBetween c 0 r.ranges.size

end CodeRanges

end Text

end Scrobbler
