import Scrobbler.Binary64.Arith
import Mathlib.Algebra.Order.Field.Power
import Mathlib.Data.Rat.Cast.Order
import Mathlib.Tactic.Positivity
import Mathlib.Tactic.FieldSimp
import Mathlib.Tactic.Ring

/-!
# Signs of binary64 arithmetic

The binary64 model rounds an exact ratio `±n / d` with `ofRatio`: it takes `⌊log₂ (n / d)⌋`
from the two logarithms, rounds the ratio scaled to 53 bits, and packs sign, exponent and
fraction into 64 bits with `encode`. This module proves that the pieces fit: the bits decode to
what was packed, the exponent is the floor of the logarithm, and the rounded mantissa never
exceeds 53 bits. Hence rounding keeps the sign it is asked for and never gives not-a-number,
and a positive integer of 64 bits rounds to a finite number that is not zero.

From these, products and quotients have the signs IEEE 754 gives them, which is what a
comparison with a threshold needs: a value at or below zero (a negative number, a zero of
either sign, or minus infinity) times a positive finite number, or divided by one, stays at or
below zero, and no value that is not below zero is below it.

## Main statements

* `floorLog2Ratio_spec`: `floorLog2Ratio n d` is `⌊log₂ (n / d)⌋`.
* `kind_ofRatio`: rounding a ratio gives a number or an infinity of the sign asked for.
* `kind_ofRatio_one`: a positive natural number below `2^64` rounds to a finite non-zero number.
* `atMostZero_mul`, `atMostZero_div`: the signs of products and quotients.
* `lt_eq_false_of_atMostZero`: no value that is not below zero is below a value at or below
  zero.
-/

namespace Scrobbler

namespace Binary64

/-! ### Decoding what was packed -/

section Encode

variable {b f : Nat}

/-- Fields that fit give back the sign, the exponent and the fraction they were packed from. -/
theorem fields_encode (neg : Bool) (hb : b < 2048) (hf : f < Nat.pow 2 52) :
    (encode neg b f).negative = neg ∧ (encode neg b f).biasedExponent = b ∧
      (encode neg b f).fraction = f := by
  have h52 : Nat.pow 2 52 = 4503599627370496 := rfl
  have h63 : Nat.pow 2 63 = 9223372036854775808 := rfl
  have h11 : Nat.pow 2 11 = 2048 := rfl
  rw [h52] at hf
  -- the three fields add up to less than `2^64`, so packing them loses nothing
  have hbits : (encode neg b f).bits.toNat =
      (if neg then Nat.pow 2 63 else 0) + b * Nat.pow 2 52 + f := by
    simp only [encode, UInt64.toNat_ofNat']
    apply Nat.mod_eq_of_lt
    rw [h52, h63]
    split <;> omega
  simp only [negative, biasedExponent, fraction, hbits, h52, h63, h11]
  cases neg <;> simp <;> omega

/-- Below the top exponent, the bits decode to the value they were packed from. -/
theorem kind_encode (neg : Bool) (hb : b < 2047) (hf : f < Nat.pow 2 52) :
    (encode neg b f).kind =
      if b = 0 then .finite neg f (-1074) else .finite neg (f + Nat.pow 2 52) ((b : Int) - 1075) := by
  obtain ⟨hneg, hexp, hfrac⟩ := fields_encode neg (by omega : b < 2048) hf
  simp only [kind, hneg, hexp, hfrac, if_neg (by omega : b ≠ 2047)]

@[simp] theorem kind_zero (neg : Bool) : (zero neg).kind = .finite neg 0 (-1074) := by
  simp [zero, kind_encode neg (by omega : 0 < 2047) (by decide : 0 < Nat.pow 2 52)]

@[simp] theorem kind_infinity (neg : Bool) : (infinity neg).kind = .infinite neg := by
  obtain ⟨hneg, hexp, hfrac⟩ :=
    fields_encode neg (by omega : 2047 < 2048) (by decide : 0 < Nat.pow 2 52)
  simp [infinity, kind, hneg, hexp, hfrac]

end Encode

/-- Packing a mantissa of at most 53 bits keeps the sign. It gives an infinity only from an
exponent of 971 or more, and otherwise a number whose mantissa keeps 53 bits when it had them. -/
theorem kind_pack (neg : Bool) {m : Nat} {q : Int} (hm : m ≤ Nat.pow 2 53) (hq : -1074 ≤ q) :
    (pack neg m q).kind = .infinite neg ∧ 971 ≤ q ∨
      ∃ m' e, (pack neg m q).kind = .finite neg m' e ∧ (Nat.pow 2 52 ≤ m → Nat.pow 2 52 ≤ m') := by
  have h52 : Nat.pow 2 52 = 4503599627370496 := rfl
  have h53 : Nat.pow 2 53 = 9007199254740992 := rfl
  unfold pack
  dsimp only
  -- a mantissa that rounded up to `2^53` carries into the exponent
  generalize hm' : (if m = Nat.pow 2 53 then Nat.pow 2 52 else m) = m'
  generalize hq' : (if m = Nat.pow 2 53 then q + 1 else q) = q'
  have hm'm : m' < Nat.pow 2 53 ∧ (Nat.pow 2 52 ≤ m → Nat.pow 2 52 ≤ m') := by
    rw [← hm']
    split <;> omega
  have hq'q : q ≤ q' ∧ q' ≤ q + 1 := by
    rw [← hq']
    split <;> omega
  by_cases hsub : m' < Nat.pow 2 52
  · rw [if_pos hsub, kind_encode neg (by omega) hsub]
    exact .inr ⟨_, _, rfl, fun h => absurd (hm'm.2 h) (by omega)⟩
  rw [if_neg hsub]
  by_cases hinf : 2047 ≤ q' + 1075
  · rw [if_pos hinf]
    exact .inl ⟨kind_infinity neg, by omega⟩
  rw [if_neg hinf, kind_encode neg (by omega) (by omega)]
  right
  split
  · exact ⟨_, _, rfl, fun _ => by omega⟩
  · exact ⟨_, _, rfl, fun _ => by omega⟩

/-! ### The exponent and the mantissa of a rounded ratio -/

theorem natCast_pow_toNat (k : Int) (hk : 0 ≤ k) : ((Nat.pow 2 k.toNat : Nat) : ℚ) = 2 ^ k := by
  rw [Nat.pow_eq, Nat.cast_pow, Nat.cast_ofNat, ← zpow_natCast, Int.toNat_of_nonneg hk]

theorem scaledLe_iff (d n : Nat) (k : Int) : scaledLe d k n = true ↔ (d : ℚ) * 2 ^ k ≤ n := by
  unfold scaledLe
  split
  · rename_i hk
    rw [decide_eq_true_iff, ← natCast_pow_toNat k hk, ← Nat.cast_mul, Nat.cast_le]
  · rename_i hk
    have hpos : (0 : ℚ) < 2 ^ (-k) := by positivity
    rw [decide_eq_true_iff, ← @Nat.cast_le ℚ, Nat.cast_mul, natCast_pow_toNat (-k) (by omega),
      ← div_le_iff₀ hpos, zpow_neg, div_inv_eq_mul]

/-- A positive natural number lies between the powers of two its logarithm gives. -/
theorem log2_bounds {n : Nat} (hn : 0 < n) :
    (2 : ℚ) ^ (n.log2 : Int) ≤ n ∧ (n : ℚ) < 2 ^ ((n.log2 : Int) + 1) := by
  have hlo := Nat.log2_self_le (Nat.pos_iff_ne_zero.1 hn)
  have hhi := @Nat.lt_log2_self n
  constructor
  · rw [zpow_natCast]
    exact_mod_cast hlo
  · rw [← Nat.cast_one, ← Nat.cast_add, zpow_natCast]
    exact_mod_cast hhi

/-- `floorLog2Ratio n d` is `⌊log₂ (n / d)⌋`. -/
theorem floorLog2Ratio_spec {n d : Nat} (hn : 0 < n) (hd : 0 < d) :
    (d : ℚ) * 2 ^ floorLog2Ratio n d ≤ n ∧ (n : ℚ) < d * 2 ^ (floorLog2Ratio n d + 1) := by
  obtain ⟨hn₁, hn₂⟩ := log2_bounds hn
  obtain ⟨hd₁, hd₂⟩ := log2_bounds hd
  set k : Int := (n.log2 : Int) - d.log2 with hk
  have h2 : (2 : ℚ) ≠ 0 := two_ne_zero
  -- the two logarithms put the ratio between `2^(k-1)` and `2^(k+1)`; one test picks the half
  have hlow : (d : ℚ) * 2 ^ (k - 1) < n := by
    calc (d : ℚ) * 2 ^ (k - 1) < 2 ^ ((d.log2 : Int) + 1) * 2 ^ (k - 1) :=
          mul_lt_mul_of_pos_right hd₂ (by positivity)
      _ = 2 ^ (n.log2 : Int) := by rw [← zpow_add₀ h2]; congr 1; omega
      _ ≤ n := hn₁
  have hhigh : (n : ℚ) < d * 2 ^ (k + 1) := by
    calc (n : ℚ) < 2 ^ ((n.log2 : Int) + 1) := hn₂
      _ = 2 ^ (d.log2 : Int) * 2 ^ (k + 1) := by rw [← zpow_add₀ h2]; congr 1; omega
      _ ≤ d * 2 ^ (k + 1) := mul_le_mul_of_nonneg_right hd₁ (by positivity)
  unfold floorLog2Ratio
  dsimp only
  rw [← hk]
  split
  · rename_i hle
    exact ⟨(scaledLe_iff d n k).1 hle, hhigh⟩
  · rename_i hle
    rw [scaledLe_iff, not_le] at hle
    exact ⟨hlow.le, by simpa using hle⟩

theorem roundHalfEven_le (n d : Nat) : roundHalfEven n d ≤ n / d + 1 := by
  unfold roundHalfEven
  dsimp only
  split_ifs <;> omega

theorem div_le_roundHalfEven (n d : Nat) : n / d ≤ roundHalfEven n d := by
  unfold roundHalfEven
  dsimp only
  split_ifs <;> omega

/-- Rounding a ratio below a whole number gives at most that number. -/
theorem roundHalfEven_le_of_lt {N D M : Nat} (hD : 0 < D) (h : (N : ℚ) / D < M) :
    roundHalfEven N D ≤ M := by
  have hlt : N < M * D := by
    rw [div_lt_iff₀ (by exact_mod_cast hD)] at h
    exact_mod_cast h
  have := roundHalfEven_le N D
  have := (Nat.div_lt_iff_lt_mul hD).2 hlt
  omega

/-- Rounding a ratio above a whole number gives at least that number. -/
theorem le_roundHalfEven_of_le {N D M : Nat} (hD : 0 < D) (h : (M : ℚ) ≤ N / D) :
    M ≤ roundHalfEven N D := by
  have hle : M * D ≤ N := by
    rw [le_div_iff₀ (by exact_mod_cast hD)] at h
    exact_mod_cast h
  exact le_trans ((Nat.le_div_iff_mul_le hD).2 hle) (div_le_roundHalfEven N D)

/-- `roundScaled n d q` rounds the ratio `n / (d · 2^q)`, written over natural numbers. -/
theorem roundScaled_eq (n d : Nat) (q : Int) (hd : 0 < d) :
    ∃ N D, 0 < D ∧ roundScaled n d q = roundHalfEven N D ∧ (N : ℚ) / D = n / (d * 2 ^ q) := by
  unfold roundScaled
  split
  · rename_i hq
    refine ⟨n, d * Nat.pow 2 q.toNat, Nat.mul_pos hd (Nat.pow_pos (by decide)), rfl, ?_⟩
    rw [Nat.cast_mul, natCast_pow_toNat q hq]
  · rename_i hq
    refine ⟨n * Nat.pow 2 (-q).toNat, d, hd, rfl, ?_⟩
    rw [Nat.cast_mul, natCast_pow_toNat (-q) (by omega), zpow_neg]
    field_simp

/-- The exponent at which `ofRatio` rounds `n / d`: 52 below its logarithm, so that the
mantissa has 53 bits, but not below the subnormal exponent. -/
def ratioExponent (n d : Nat) : Int := max (floorLog2Ratio n d - 52) (-1074)

theorem le_ratioExponent (n d : Nat) : -1074 ≤ ratioExponent n d := le_max_right _ _

theorem ofRatio_of_ne_zero (neg : Bool) {n : Nat} (d : Nat) (hn : n ≠ 0) :
    ofRatio neg n d = pack neg (roundScaled n d (ratioExponent n d)) (ratioExponent n d) := by
  simp [ofRatio, hn, ratioExponent]

section Ratio

variable {n d : Nat}

/-- The mantissa `ofRatio` rounds to has at most 53 bits. -/
theorem roundScaled_le (hn : 0 < n) (hd : 0 < d) :
    roundScaled n d (ratioExponent n d) ≤ Nat.pow 2 53 := by
  set k := floorLog2Ratio n d
  set q := ratioExponent n d
  have hq : k - 52 ≤ q := le_max_left _ _
  obtain ⟨N, D, hD, heq, hval⟩ := roundScaled_eq n d q hd
  rw [heq]
  apply roundHalfEven_le_of_lt hD
  have h2 : (2 : ℚ) ≠ 0 := two_ne_zero
  have hdq : (0 : ℚ) < d * 2 ^ q := by positivity
  rw [hval, div_lt_iff₀ hdq,
    show ((Nat.pow 2 53 : Nat) : ℚ) = 2 ^ (53 : Int) by norm_num [Nat.pow_eq]]
  calc (n : ℚ) < d * 2 ^ (k + 1) := (floorLog2Ratio_spec hn hd).2
    _ ≤ d * 2 ^ (53 + q) :=
      mul_le_mul_of_nonneg_left (zpow_le_zpow_right₀ (by norm_num) (by omega)) (by positivity)
    _ = 2 ^ (53 : Int) * (d * 2 ^ q) := by rw [zpow_add₀ h2]; ring

/-- Away from the subnormal range, the mantissa `ofRatio` rounds to has all 53 bits. -/
theorem le_roundScaled (hn : 0 < n) (hd : 0 < d) (hk : -1022 ≤ floorLog2Ratio n d) :
    Nat.pow 2 52 ≤ roundScaled n d (ratioExponent n d) := by
  set k := floorLog2Ratio n d
  have hq : ratioExponent n d = k - 52 := max_eq_left (by omega)
  rw [hq]
  obtain ⟨N, D, hD, heq, hval⟩ := roundScaled_eq n d (k - 52) hd
  rw [heq]
  apply le_roundHalfEven_of_le hD
  have h2 : (2 : ℚ) ≠ 0 := two_ne_zero
  have hdq : (0 : ℚ) < d * 2 ^ (k - 52) := by positivity
  rw [hval, le_div_iff₀ hdq,
    show ((Nat.pow 2 52 : Nat) : ℚ) = 2 ^ (52 : Int) by norm_num [Nat.pow_eq]]
  calc (2 : ℚ) ^ (52 : Int) * (d * 2 ^ (k - 52)) = d * 2 ^ k := by
        rw [mul_left_comm, ← zpow_add₀ h2]; congr 2; omega
    _ ≤ n := (floorLog2Ratio_spec hn hd).1

/-! ### Rounding keeps the sign -/

/-- Rounding a ratio keeps its sign: the result is a number or an infinity of the sign asked
for, never not-a-number. -/
theorem kind_ofRatio (neg : Bool) (n : Nat) (hd : 0 < d) :
    (ofRatio neg n d).kind = .infinite neg ∨ ∃ m e, (ofRatio neg n d).kind = .finite neg m e := by
  by_cases hn : n = 0
  · subst hn
    simp [ofRatio]
  rw [ofRatio_of_ne_zero neg d hn]
  rcases kind_pack neg (roundScaled_le (Nat.pos_of_ne_zero hn) hd) (le_ratioExponent n d) with
    ⟨hinf, -⟩ | ⟨m, e, hfin, -⟩
  · exact .inl hinf
  · exact .inr ⟨m, e, hfin⟩

/-- A ratio in the normal range rounds to a finite number that is not zero. -/
theorem kind_ofRatio_of_normal (neg : Bool) (hn : 0 < n) (hd : 0 < d)
    (hlo : -1022 ≤ floorLog2Ratio n d) (hhi : floorLog2Ratio n d < 1023) :
    ∃ m e, (ofRatio neg n d).kind = .finite neg m e ∧ m ≠ 0 := by
  rw [ofRatio_of_ne_zero neg d (Nat.pos_iff_ne_zero.1 hn)]
  have hq : ratioExponent n d < 971 := max_lt (by omega) (by omega)
  rcases kind_pack neg (roundScaled_le hn hd) (le_ratioExponent n d) with
    ⟨-, hinf⟩ | ⟨m, e, hfin, hnorm⟩
  · omega
  · refine ⟨m, e, hfin, ?_⟩
    have := hnorm (le_roundScaled hn hd hlo)
    have : 0 < Nat.pow 2 52 := Nat.pow_pos (by decide)
    omega

end Ratio

/-- A positive natural number below `2^64` rounds to a finite number that is not zero. -/
theorem kind_ofRatio_one (neg : Bool) {n : Nat} (hn : 0 < n) (hlt : n < 2 ^ 64) :
    ∃ m e, (ofRatio neg n 1).kind = .finite neg m e ∧ m ≠ 0 := by
  obtain ⟨hlo, hhi⟩ := floorLog2Ratio_spec hn Nat.one_pos
  simp only [Nat.cast_one, one_mul] at hlo hhi
  have h1 : (1 : ℚ) ≤ n := by exact_mod_cast hn
  have h64 : (n : ℚ) < 2 ^ (64 : Int) := by exact_mod_cast hlt
  -- the logarithm of `n` lies in `[0, 64)`, well inside the normal range
  have hk₁ : 0 < floorLog2Ratio n 1 + 1 := by
    have := lt_of_le_of_lt h1 hhi
    rwa [← zpow_zero (2 : ℚ), zpow_lt_zpow_iff_right₀ one_lt_two] at this
  have hk₂ : floorLog2Ratio n 1 < 64 := by
    have := lt_of_le_of_lt hlo h64
    rwa [zpow_lt_zpow_iff_right₀ one_lt_two] at this
  exact kind_ofRatio_of_normal neg hn Nat.one_pos (by omega) (by omega)

theorem kind_ofInt_of_pos {i : Int} (h0 : 0 < i) (hlt : i < 2 ^ 64) :
    ∃ m e, (ofInt i).kind = .finite false m e ∧ m ≠ 0 := by
  have hneg : decide (i < 0) = false := by simp; omega
  rw [ofInt, hneg]
  exact kind_ofRatio_one false (by omega) (by omega)

theorem kind_ofNat_of_pos {n : Nat} (h0 : 0 < n) (hlt : n < 2 ^ 64) :
    ∃ m e, (ofNat n).kind = .finite false m e ∧ m ≠ 0 :=
  kind_ofRatio_one false h0 hlt

/-! ### Signs of arithmetic -/

/-- A value at or below zero: a negative number, a zero of either sign, or minus infinity. -/
def Kind.AtMostZero : Kind → Prop
  | .finite neg m _ => neg = true ∨ m = 0
  | .infinite neg => neg = true
  | .nan => False

@[simp] theorem ofScaled_zero (neg : Bool) (e : Int) : ofScaled neg 0 e = zero neg := by
  unfold ofScaled
  split <;> simp [ofRatio]

@[simp] theorem kind_ofNat_zero : (ofNat 0).kind = .finite false 0 (-1074) := by
  simp [ofNat, ofRatio]

theorem kind_ofScaled (neg : Bool) (m : Nat) (e : Int) :
    (ofScaled neg m e).kind = .infinite neg ∨ ∃ m' e', (ofScaled neg m e).kind = .finite neg m' e' := by
  unfold ofScaled
  split
  · exact kind_ofRatio neg _ Nat.one_pos
  · exact kind_ofRatio neg _ (Nat.pow_pos (by decide))

theorem atMostZero_of_kind_eq {x : Binary64}
    (h : x.kind = .infinite true ∨ ∃ m e, x.kind = .finite true m e) : x.kind.AtMostZero := by
  rcases h with h | ⟨m, e, h⟩ <;> simp [h, Kind.AtMostZero]

theorem atMostZero_ofInt {i : Int} (hi : i ≤ 0) : (ofInt i).kind.AtMostZero := by
  rcases hi.lt_or_eq with hi | rfl
  · have hneg : decide (i < 0) = true := by simpa using hi
    rw [ofInt, hneg]
    exact atMostZero_of_kind_eq (kind_ofRatio true _ Nat.one_pos)
  · simp [ofInt, ofRatio, Kind.AtMostZero]

/-- A positive finite number times a value at or below zero is at or below zero. -/
theorem atMostZero_mul {x y : Binary64} {M : Nat} {E : Int} (hx : x.kind = .finite false M E)
    (hM : M ≠ 0) (hy : y.kind.AtMostZero) : (mul x y).kind.AtMostZero := by
  unfold mul
  rw [hx]
  cases hyk : y.kind with
  | nan => simp [hyk, Kind.AtMostZero] at hy
  | infinite t =>
    simp only [hyk, Kind.AtMostZero] at hy
    simp [hM, hy, Kind.AtMostZero]
  | finite t m f =>
    simp only [hyk, Kind.AtMostZero] at hy
    dsimp only
    -- a negative factor gives a negative product; a zero factor gives a zero
    rcases hy with rfl | rfl
    · exact atMostZero_of_kind_eq (kind_ofScaled true _ _)
    · simp [Kind.AtMostZero]

/-- A value at or below zero divided by a positive finite number is at or below zero. -/
theorem atMostZero_div {x y : Binary64} {N : Nat} {F : Int} (hx : x.kind.AtMostZero)
    (hy : y.kind = .finite false N F) (hN : N ≠ 0) : (div x y).kind.AtMostZero := by
  unfold div
  rw [hy]
  cases hxk : x.kind with
  | nan => simp [hxk, Kind.AtMostZero] at hx
  | infinite s =>
    simp only [hxk, Kind.AtMostZero] at hx
    subst hx
    dsimp only
    rw [show (true != false) = true from rfl, kind_infinity]
    exact rfl
  | finite s m e =>
    simp only [hxk, Kind.AtMostZero] at hx
    dsimp only
    rw [if_neg hN]
    rcases hx with rfl | rfl
    · rw [show (true != false) = true from rfl]
      split
      · exact atMostZero_of_kind_eq (kind_ofRatio true _ (Nat.pos_of_ne_zero hN))
      · have hpos : 0 < N * Nat.pow 2 (F - e).toNat :=
          Nat.mul_pos (Nat.pos_of_ne_zero hN) (Nat.pow_pos (by decide))
        exact atMostZero_of_kind_eq (kind_ofRatio true m hpos)
    · split <;> simp [ofRatio, Kind.AtMostZero]

theorem scaledAt_neg {m : Nat} (hm : m ≠ 0) (e base : Int) : scaledAt true m e base < 0 := by
  have : 0 < m * Nat.pow 2 (e - base).toNat :=
    Nat.mul_pos (Nat.pos_of_ne_zero hm) (Nat.pow_pos (by decide))
  simp only [scaledAt, if_true]
  omega

theorem scaledAt_nonneg {neg : Bool} {m : Nat} (h : neg = false ∨ m = 0) (e base : Int) :
    0 ≤ scaledAt neg m e base := by
  rcases h with rfl | rfl <;> simp [scaledAt]

theorem scaledAt_nonpos {neg : Bool} {m : Nat} (h : neg = true ∨ m = 0) (e base : Int) :
    scaledAt neg m e base ≤ 0 := by
  rcases h with rfl | rfl <;> simp [scaledAt]

/-- A positive number or a positive zero is not below zero. -/
theorem lt_ofNat_zero_of_kind {x : Binary64} {m : Nat} {e : Int} (h : x.kind = .finite false m e) :
    lt x (ofNat 0) = false := by
  unfold lt
  rw [h, kind_ofNat_zero]
  simp only [decide_eq_false_iff_not, not_lt]
  exact le_trans (scaledAt_nonpos (.inr rfl) _ _) (scaledAt_nonneg (.inl rfl) _ _)

/-- A value that is not below zero is not below a value at or below zero; not-a-number is below
nothing. -/
theorem lt_eq_false_of_atMostZero {x y : Binary64} (hx : lt x (ofNat 0) = false)
    (hy : y.kind.AtMostZero) : lt x y = false := by
  unfold lt at hx ⊢
  rw [kind_ofNat_zero] at hx
  cases hxk : x.kind with
  | nan => rfl
  | infinite s =>
    simp only [hxk] at hx
    cases hyk : y.kind with
    | nan => rfl
    | infinite t => simp only [hyk, Kind.AtMostZero] at hy; simp [hx, hy]
    | finite t n f => exact hx
  | finite s m e =>
    simp only [hxk, decide_eq_false_iff_not, not_lt] at hx
    -- the first operand is not below zero: it is positive or a zero
    have hs : s = false ∨ m = 0 := by
      by_contra h
      simp only [not_or, Bool.not_eq_false] at h
      obtain ⟨rfl, hm⟩ := h
      have hzero : scaledAt false 0 (-1074) (min e (-1074)) = 0 := by simp [scaledAt]
      exact absurd hx (not_le.2 (hzero ▸ scaledAt_neg hm _ _))
    cases hyk : y.kind with
    | nan => rfl
    | infinite t => simp only [hyk, Kind.AtMostZero] at hy; simp [hy]
    | finite t n f =>
      simp only [hyk, Kind.AtMostZero] at hy
      simp only [decide_eq_false_iff_not, not_lt]
      exact le_trans (scaledAt_nonpos hy _ _) (scaledAt_nonneg hs _ _)

end Binary64

end Scrobbler
