import Scrobbler.Binary64.Basic

/-!
# Binary64 arithmetic

Addition, multiplication, division and the order of binary64 numbers, as IEEE 754 defines
them for round-to-nearest-even: the exact result of two finite operands is rounded once by
`Binary64.ofRatio`, and the special operands (zeros, infinities, not-a-number) give the
results the standard lists. The sign of an exact zero product or quotient is the exclusive or
of the operands' signs; an exact zero sum is positive unless both operands are negative.
-/

namespace Scrobbler

namespace Binary64

/-- The product, rounded to nearest, ties to even. -/
def mul (x y : Binary64) : Binary64 :=
  match x.kind, y.kind with
  | .nan, _ => nan
  | _, .nan => nan
  | .infinite s, .infinite t => infinity (s != t)
  | .infinite s, .finite t m _ => if m = 0 then nan else infinity (s != t)
  | .finite s m _, .infinite t => if m = 0 then nan else infinity (s != t)
  | .finite s m e, .finite t n f => ofScaled (s != t) (m * n) (e + f)

/-- The quotient, rounded to nearest, ties to even: a finite non-zero number divided by a zero
is an infinity, and zero by zero is not a number. -/
def div (x y : Binary64) : Binary64 :=
  match x.kind, y.kind with
  | .nan, _ => nan
  | _, .nan => nan
  | .infinite _, .infinite _ => nan
  | .infinite s, .finite t _ _ => infinity (s != t)
  | .finite s _ _, .infinite t => zero (s != t)
  | .finite s m e, .finite t n f =>
    if n = 0 then (if m = 0 then nan else infinity (s != t))
    else if 0 ≤ e - f then ofRatio (s != t) (m * Nat.pow 2 (e - f).toNat) n
    else ofRatio (s != t) m (n * Nat.pow 2 (f - e).toNat)

/-- The exact value `(-1)^neg · m · 2^e` as an integer multiple of `2^base`, for `base ≤ e`. -/
def scaledAt (neg : Bool) (m : Nat) (e base : Int) : Int :=
  (if neg then -1 else 1) * ((m * Nat.pow 2 (e - base).toNat : Nat) : Int)

/-- The sum, rounded to nearest, ties to even: infinities of opposite signs give not a
number. -/
def add (x y : Binary64) : Binary64 :=
  match x.kind, y.kind with
  | .nan, _ => nan
  | _, .nan => nan
  | .infinite s, .infinite t => if s = t then infinity s else nan
  | .infinite s, .finite .. => infinity s
  | .finite .., .infinite t => infinity t
  | .finite s m e, .finite t n f =>
    let base := min e f
    let sum := scaledAt s m e base + scaledAt t n f base
    if sum = 0 then zero (s && t)
    else ofScaled (decide (sum < 0)) sum.natAbs base

/-- The number with the opposite sign bit; not-a-number stays not-a-number. -/
def neg (x : Binary64) : Binary64 := ⟨x.bits ^^^ 0x8000000000000000⟩

instance : Mul Binary64 := ⟨mul⟩

instance : Div Binary64 := ⟨div⟩

instance : Add Binary64 := ⟨add⟩

/-- Whether `x < y` in the order of IEEE 754: a not-a-number is below and above nothing,
the two zeros are equal, and the infinities lie beyond every finite number. -/
def lt (x y : Binary64) : Bool :=
  match x.kind, y.kind with
  | .nan, _ => false
  | _, .nan => false
  | .infinite s, .infinite t => s && !t
  | .infinite s, .finite .. => s
  | .finite .., .infinite t => !t
  | .finite s m e, .finite t n f =>
    let base := min e f
    decide (scaledAt s m e base < scaledAt t n f base)

example : lt (zero true) (zero false) = false := by decide +kernel
example : lt (ofInt (-1)) (zero true) = true := by decide +kernel
example : add (ofNat 1) (ofNat 2) = ofNat 3 := by decide +kernel

end Binary64

end Scrobbler
