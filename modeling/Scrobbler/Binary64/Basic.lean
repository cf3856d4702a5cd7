/-!
# Binary64 numbers

A binary64 number is the 64 bits of an IEEE 754 double: a sign bit, eleven exponent bits and
fifty-two fraction bits. This module decodes the bits into a `Kind` (a finite value `±m · 2^e`,
an infinity, or not a number) and rounds an exact ratio of natural numbers to the nearest
binary64 number, a tie going to the even mantissa.

## The model

Rounding is done in exact `Nat` arithmetic, so every operation built on it can be evaluated
and reasoned about inside the logic. Only round-to-nearest-even is modelled: it is the one
rounding the program's arithmetic and number reading use. A finite value is decoded with its
canonical mantissa: `2^52 ≤ m < 2^53` for a normal number, and `e = -1074` for a subnormal one.
-/

namespace Scrobbler

/-- The 64 bits of an IEEE 754 binary64 number. -/
structure Binary64 where
  /-- Sign, then exponent, then fraction, from the highest bit down. -/
  bits : UInt64
  deriving DecidableEq, Inhabited

namespace Binary64

/-- What a binary64 number stands for. -/
inductive Kind where
  /-- The exact value `(-1)^neg · m · 2^e`. -/
  | finite (neg : Bool) (m : Nat) (e : Int)
  /-- Plus or minus infinity. -/
  | infinite (neg : Bool)
  /-- Not a number. -/
  | nan
  deriving DecidableEq, Repr

/-- The number with the given sign bit, biased exponent and fraction. -/
def encode (neg : Bool) (biased fraction : Nat) : Binary64 :=
  ⟨UInt64.ofNat ((if neg then Nat.pow 2 63 else 0) + biased * Nat.pow 2 52 + fraction)⟩

/-- Whether the sign bit is set. -/
def negative (x : Binary64) : Bool := x.bits.toNat / Nat.pow 2 63 = 1

/-- The eleven exponent bits. -/
def biasedExponent (x : Binary64) : Nat := x.bits.toNat / Nat.pow 2 52 % Nat.pow 2 11

/-- The fifty-two fraction bits. -/
def fraction (x : Binary64) : Nat := x.bits.toNat % Nat.pow 2 52

/-- The value the bits stand for. -/
def kind (x : Binary64) : Kind :=
  if x.biasedExponent = 2047 then
    if x.fraction = 0 then .infinite x.negative else .nan
  else if x.biasedExponent = 0 then
    .finite x.negative x.fraction (-1074)
  else
    .finite x.negative (x.fraction + Nat.pow 2 52) ((x.biasedExponent : Int) - 1075)

/-- A zero of the given sign. -/
def zero (neg : Bool) : Binary64 := encode neg 0 0

/-- An infinity of the given sign. -/
def infinity (neg : Bool) : Binary64 := encode neg 2047 0

/-- The quiet not-a-number that arithmetic produces. -/
def nan : Binary64 := encode false 2047 (Nat.pow 2 51)

/-- Whether the value is finite. -/
def isFinite (x : Binary64) : Bool :=
  match x.kind with
  | .finite .. => true
  | _ => false

/-- Whether the value is a zero of either sign. -/
def isZero (x : Binary64) : Bool :=
  match x.kind with
  | .finite _ m _ => m = 0
  | _ => false

/-- `n / d` rounded to the nearest natural number, a tie going to the even one. -/
def roundHalfEven (n d : Nat) : Nat :=
  let q := n / d
  let r := n % d
  if 2 * r < d then q
  else if d < 2 * r then q + 1
  else if q % 2 = 0 then q else q + 1

/-- Whether `d · 2^k ≤ n`, for an exponent `k` of either sign. -/
def scaledLe (d : Nat) (k : Int) (n : Nat) : Bool :=
  if 0 ≤ k then d * Nat.pow 2 k.toNat ≤ n else d ≤ n * Nat.pow 2 (-k).toNat

/-- `⌊log₂ (n / d)⌋` for positive `n` and `d`: the two logarithms of `n` and `d` fix it up
to one. -/
def floorLog2Ratio (n d : Nat) : Int :=
  let k : Int := (n.log2 : Int) - d.log2
  if scaledLe d k n then k else k - 1

/-- `n / 2^k` rounded to the nearest natural number, for an exponent `k` of either sign. -/
def roundScaled (n d : Nat) (k : Int) : Nat :=
  if 0 ≤ k then roundHalfEven n (d * Nat.pow 2 k.toNat) else roundHalfEven (n * Nat.pow 2 (-k).toNat) d

/-- The number `±m · 2^q` for a mantissa `m ≤ 2^53` rounded at exponent `q ≥ -1074`: a
mantissa that rounded up to `2^53` moves to the next exponent, one below `2^52` is subnormal,
and an exponent past the largest finite binade gives infinity. -/
def pack (neg : Bool) (m : Nat) (q : Int) : Binary64 :=
  let m' := if m = Nat.pow 2 53 then Nat.pow 2 52 else m
  let q' := if m = Nat.pow 2 53 then q + 1 else q
  if m' < Nat.pow 2 52 then encode neg 0 m'
  else if 2047 ≤ q' + 1075 then infinity neg
  else encode neg (q' + 1075).toNat (m' - Nat.pow 2 52)

/-- The binary64 number nearest to `±n / d`, for a positive `d`: the mantissa is taken at the
exponent that leaves it 53 bits long (or at the subnormal exponent), rounded half to even.
A zero `n` gives a zero of the given sign, as IEEE 754 does for an exact zero result. -/
def ofRatio (neg : Bool) (n d : Nat) : Binary64 :=
  if n = 0 then zero neg
  else
    let q := max (floorLog2Ratio n d - 52) (-1074)
    pack neg (roundScaled n d q) q

/-- The binary64 number nearest to `±m · 2^e`. -/
def ofScaled (neg : Bool) (m : Nat) (e : Int) : Binary64 :=
  if 0 ≤ e then ofRatio neg (m * Nat.pow 2 e.toNat) 1 else ofRatio neg m (Nat.pow 2 (-e).toNat)

/-- The binary64 number nearest to a natural number. -/
def ofNat (n : Nat) : Binary64 := ofRatio false n 1

/-- The binary64 number nearest to an integer; zero is the positive zero. -/
def ofInt (i : Int) : Binary64 := ofRatio (decide (i < 0)) i.natAbs 1

example : (ofNat 1).bits = 0x3FF0000000000000 := by decide
example : (ofInt (-2)).bits = 0xC000000000000000 := by decide
example : (ofNat 0).kind = .finite false 0 (-1074) := by decide

end Binary64

end Scrobbler
