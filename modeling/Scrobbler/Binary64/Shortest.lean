import Scrobbler.Binary64.Basic

/-!
# The shortest decimal of a binary64 number

A positive finite binary64 number `m · 2^e` stands for every real number that rounds to it:
the interval between the midpoints to its two neighbours, ends included exactly when `m` is
even (a tie rounds to the even mantissa). Of the decimals in that interval, `shortest` picks
one with the fewest significant digits and, among those, the one nearest to the number, a tie
going to the even significand. The result therefore reads back as the number, and no decimal
with fewer digits does.

## The search

All three interval points are integer multiples of `2^(e-2)`: the number is `4m`, the upper
end `4m + 2`, the lower end `4m - 2`, or `4m - 1` at the bottom of a binade, where the gap to
the lower neighbour is half as wide. For a decimal unit `10^j` the grid points nearest to the
number are `⌊v / 10^j⌋ · 10^j` and the next one; the search takes `j` from the largest unit
that fits below the upper end downwards and stops at the first unit with a grid point inside.
Everything is exact `Nat` arithmetic.
-/

namespace Scrobbler

namespace Binary64

/-- A decimal `digits · 10^exponent`. -/
structure Decimal where
  /-- The significand. -/
  digits : Nat
  /-- The power of ten it is scaled by. -/
  exponent : Int
  deriving DecidableEq, Repr

/-- The number of decimal digits of a natural number (none for zero). -/
def digitCount (n : Nat) : Nat :=
  if n = 0 then 0 else digitCount (n / 10) + 1
termination_by n
decreasing_by omega

/-- `c · 10^j` compared with `n · 2^p`; both sides are brought to integers by the powers
with negative exponents. -/
def compareGrid (c : Nat) (j : Int) (n : Nat) (p : Int) : Ordering :=
  compare (c * Nat.pow 10 j.toNat * Nat.pow 2 (-p).toNat) (n * Nat.pow 2 p.toNat * Nat.pow 10 (-j).toNat)

/-- `⌊n · 2^p / 10^j⌋`. -/
def floorOnGrid (n : Nat) (p j : Int) : Nat :=
  (n * Nat.pow 2 p.toNat * Nat.pow 10 (-j).toNat) / (Nat.pow 10 j.toNat * Nat.pow 2 (-p).toNat)

/-- `⌊log₁₀ (n · 2^p)⌋` for a positive `n`: the digit counts of the numerator and the
denominator fix it up to one. -/
def floorLog10 (n : Nat) (p : Int) : Int :=
  let num := n * Nat.pow 2 p.toNat
  let den := Nat.pow 2 (-p).toNat
  let k : Int := (digitCount num : Int) - digitCount den
  if compareGrid 1 k n p != .gt then k else k - 1

/-- The rounding interval of the positive number `m · 2^e`, as multiples of `2^(e-2)`:
the number, the lower end, the upper end, and whether the ends belong to it. -/
structure Interval where
  /-- The number. -/
  value : Nat
  /-- The lower end. -/
  low : Nat
  /-- The upper end. -/
  high : Nat
  /-- The unit exponent: every point is a multiple of `2^scale`. -/
  scale : Int
  /-- Whether the ends belong to the interval. -/
  closed : Bool

/-- The interval of reals that round to `m · 2^e`, for a canonical mantissa `m`. -/
def Interval.of (m : Nat) (e : Int) : Interval :=
  let narrowBelow := m = Nat.pow 2 52 ∧ e > -1074
  { value := 4 * m
    low := 4 * m - (if narrowBelow then 1 else 2)
    high := 4 * m + 2
    scale := e - 2
    closed := m % 2 = 0 }

/-- Whether `c · 10^j` lies in the interval. -/
def Interval.contains (I : Interval) (c : Nat) (j : Int) : Bool :=
  let aboveLow := match compareGrid c j I.low I.scale with
    | .gt => true
    | .eq => I.closed
    | .lt => false
  let belowHigh := match compareGrid c j I.high I.scale with
    | .lt => true
    | .eq => I.closed
    | .gt => false
  aboveLow && belowHigh

/-- The grid point of unit `10^j` inside the interval that is nearest to the number, a tie
going to the even significand, if there is one. -/
def Interval.pick (I : Interval) (j : Int) : Option Nat :=
  let c := floorOnGrid I.value I.scale j
  match I.contains c j, I.contains (c + 1) j with
  | true, true =>
    -- `c` is nearer when `2v < (2c + 1) · 10^j`
    match compareGrid (2 * c + 1) j (2 * I.value) I.scale with
    | .gt => some c
    | .lt => some (c + 1)
    | .eq => some (if c % 2 = 0 then c else c + 1)
  | true, false => some c
  | false, true => some (c + 1)
  | false, false => none

/-- Drops the trailing zeros of a significand into the exponent. -/
def Decimal.trim (d : Decimal) : Decimal :=
  if d.digits ≠ 0 ∧ d.digits % 10 = 0 then
    Decimal.trim ⟨d.digits / 10, d.exponent + 1⟩
  else d
termination_by d.digits
decreasing_by omega

/-- Tries the units `10^j`, `10^(j-1)`, … and stops at the first one with a grid point
in the interval. Seventeen significant digits always suffice, so the fuel is never used up
when the search starts at the largest unit below the upper end. -/
def Interval.search (I : Interval) : Nat → Int → Decimal
  | 0, j => ⟨floorOnGrid I.value I.scale j, j⟩
  | fuel + 1, j =>
    match I.pick j with
    | some c => ⟨c, j⟩
    | none => I.search fuel (j - 1)

/-- The shortest decimal that reads back as the positive number `m · 2^e` (canonical `m`),
nearest to it among the shortest, without trailing zeros. -/
def shortestOf (m : Nat) (e : Int) : Decimal :=
  let I := Interval.of m e
  (I.search 24 (floorLog10 I.high I.scale)).trim

example : shortestOf (Nat.pow 2 52) (-52) = ⟨1, 0⟩ := by decide +kernel

end Binary64

end Scrobbler
