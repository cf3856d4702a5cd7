/-!
# Sets of characters

A class of a pattern stands for a set of code points, kept as a list of inclusive ranges. The
operations a class can be built with are here: union, complement within a bound, and from
them intersection, difference and symmetric difference; and the case folding of ASCII
letters, which is the only folding known. A set is put in canonical form, sorted with
overlapping and touching ranges merged, before a complement is taken, so that complements are
exact.
-/

namespace Scrobbler

namespace Pattern

/-- A set of code points: a list of inclusive ranges. -/
structure CharSet where
  /-- The ranges. -/
  ranges : List (Nat × Nat)
  deriving DecidableEq, Repr

namespace CharSet

/-- The empty set. -/
def none : CharSet := ⟨[]⟩

/-- The set of one code point. -/
def single (c : Nat) : CharSet := ⟨[(c, c)]⟩

/-- The set of a range of code points. -/
def range (lo hi : Nat) : CharSet := ⟨[(lo, hi)]⟩

/-- The greatest code point. -/
def topScalar : Nat := 0x10FFFF

/-- The greatest byte. -/
def topByte : Nat := 0xFF

/-- Whether a set holds a code point. -/
def contains (s : CharSet) (c : Nat) : Bool := s.ranges.any fun (lo, hi) => lo ≤ c && c ≤ hi

/-- Whether a set holds no code point. -/
def isEmpty (s : CharSet) : Bool := s.ranges.all fun (lo, hi) => hi < lo

/-- Whether every code point of a set is ASCII. -/
def isAscii (s : CharSet) : Bool := s.ranges.all fun (lo, hi) => hi < lo || hi ≤ 0x7F

/-- Sorted ranges with overlapping and touching ones merged, the last kept first. -/
def mergeSorted (acc : List (Nat × Nat)) (r : Nat × Nat) : List (Nat × Nat) :=
  match acc with
  | (lo, hi) :: rest => if r.1 ≤ hi + 1 then (lo, max hi r.2) :: rest else r :: acc
  | [] => [r]

/-- Puts a range into a list sorted by where ranges start. -/
def insertRange (r : Nat × Nat) : List (Nat × Nat) → List (Nat × Nat)
  | [] => [r]
  | x :: rest => if r.1 ≤ x.1 then r :: x :: rest else x :: insertRange r rest

/-- The canonical form of a set: its nonempty ranges sorted, overlapping and touching ones
merged. -/
def canonical (s : CharSet) : CharSet :=
  let sorted := (s.ranges.filter fun (lo, hi) => lo ≤ hi).foldr insertRange []
  ⟨(sorted.foldl mergeSorted []).reverse⟩

/-- The union of two sets. -/
def union (a b : CharSet) : CharSet := canonical ⟨a.ranges ++ b.ranges⟩

/-- The gaps between sorted disjoint ranges from `next` up to `top`. -/
def gaps (top : Nat) : Nat → List (Nat × Nat) → List (Nat × Nat)
  | next, [] => if next ≤ top then [(next, top)] else []
  | next, (lo, hi) :: rest =>
    (if next < lo then [(next, lo - 1)] else []) ++ gaps top (max next (hi + 1)) rest

/-- The code points up to `top` that are not in a set. -/
def complementTo (top : Nat) (s : CharSet) : CharSet :=
  ⟨gaps top 0 ((canonical s).ranges.filter fun (lo, _) => lo ≤ top)⟩

/-- The surrogate code points, which are not characters. -/
def surrogates : CharSet := range 0xD800 0xDFFF

/-- The characters not in a set. -/
def negateScalars (s : CharSet) : CharSet := complementTo topScalar (union s surrogates)

/-- The bytes not in a set. -/
def negateBytes (s : CharSet) : CharSet := complementTo topByte s

/-- The intersection of two sets. -/
def inter (a b : CharSet) : CharSet :=
  complementTo topScalar (union (complementTo topScalar a) (complementTo topScalar b))

/-- The code points of one set that are not in another. -/
def diff (a b : CharSet) : CharSet := inter a (complementTo topScalar b)

/-- The code points in exactly one of two sets. -/
def symmDiff (a b : CharSet) : CharSet := diff (union a b) (inter a b)

/-- The part of a range within another, shifted by `delta` (which may be negative). -/
def shiftedPart (lo hi : Nat) (delta : Int) (r : Nat × Nat) : List (Nat × Nat) :=
  let a := max lo r.1
  let b := min hi r.2
  if a ≤ b then [((a + delta).toNat, (b + delta).toNat)] else []

/-- A set with the other case of each ASCII letter in it added. -/
def asciiFold (s : CharSet) : CharSet :=
  union s ⟨s.ranges.flatMap fun r =>
    shiftedPart 0x41 0x5A 32 r ++ shiftedPart 0x61 0x7A (-32) r⟩

example : (asciiFold (range 0x61 0x63)).ranges = [(0x41, 0x43), (0x61, 0x63)] := by decide +kernel
example : (negateBytes (single 0x0A)).ranges = [(0, 9), (0x0B, 0xFF)] := by decide +kernel

end CharSet

end Pattern

end Scrobbler
