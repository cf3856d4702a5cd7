import Scrobbler.Player.Metadata
import Scrobbler.Proofs.Lines

/-!
# Integer fields of the metadata block

An integer field is read as a signed 64-bit decimal integer. The grammar reading accepts is
stated here on its own, as `DecimalText`: an optional `+` or `-` followed by one or more ASCII
digits, read from the left with `Nat.ofDigitChars`. Leading zeros are allowed, and so is a `+`.

Reading a text as an integer of a signed bounded type succeeds exactly on that grammar with
the value between the type's bounds (`IntegerType.read_eq_ok_iff`): the digits are checked
against the bound one at a time, and since the magnitude only grows, checking each prefix is
checking the whole. The decimal text of every integer is in the grammar (`decimalText_toString`),
so every value of the type reads back from its text.

## Main statements

* `Metadata.requireInt_decimal`: an absent field is a missing field; a present one is read as
  its integer exactly when its trimmed text is decimal text of a 64-bit value, and is an
  invalid field shown untrimmed otherwise; every 64-bit value written in decimal between
  blanks reads back as itself.
-/

namespace Scrobbler

namespace Text

/-! ### The grammar -/

/-- Decimal text of an integer: an optional sign followed by one or more ASCII digits. -/
inductive DecimalText : List Char → Int → Prop where
  /-- Digits alone. -/
  | unsigned {ds : List Char} (hne : ds ≠ []) (hdigits : ∀ c ∈ ds, c.isDigit = true) :
      DecimalText ds (Nat.ofDigitChars 10 ds 0)
  /-- Digits after a plus sign. -/
  | plus {ds : List Char} (hne : ds ≠ []) (hdigits : ∀ c ∈ ds, c.isDigit = true) :
      DecimalText ('+' :: ds) (Nat.ofDigitChars 10 ds 0)
  /-- Digits after a minus sign. -/
  | minus {ds : List Char} (hne : ds ≠ []) (hdigits : ∀ c ∈ ds, c.isDigit = true) :
      DecimalText ('-' :: ds) (-(Nat.ofDigitChars 10 ds 0 : Int))

/-- `toString` writes an integer as a minus sign, for a negative one, and the digits of its
magnitude. -/
theorem toList_toString_int (n : Int) :
    (toString n).toList = (if n < 0 then ['-'] else []) ++ Nat.toDigits 10 n.natAbs := by
  cases n with
  | ofNat m =>
    change (String.ofList (Nat.toDigits 10 m)).toList = _
    simp
  | negSucc m =>
    change ("-" ++ String.ofList (Nat.toDigits 10 (m + 1))).toList = _
    simp [Int.negSucc_lt_zero]

/-- The decimal text of an integer, as `toString` writes it, is decimal text of it. -/
theorem decimalText_toString (n : Int) : DecimalText (toString n).toList n := by
  have hdigits : ∀ c ∈ Nat.toDigits 10 n.natAbs, c.isDigit = true :=
    fun _ hc => Nat.isDigit_of_mem_toDigits (by decide) (by decide) hc
  have hvalue : Nat.ofDigitChars 10 (Nat.toDigits 10 n.natAbs) 0 = n.natAbs :=
    Nat.ofDigitChars_toDigits (by decide) (by decide)
  rw [toList_toString_int]
  by_cases hn : n < 0
  · rw [if_pos hn, List.singleton_append]
    have h := DecimalText.minus Nat.toDigits_ne_nil hdigits
    rwa [hvalue, Int.ofNat_natAbs_of_nonpos (Int.le_of_lt hn), Int.neg_neg] at h
  · rw [if_neg hn, List.nil_append]
    have h := DecimalText.unsigned Nat.toDigits_ne_nil hdigits
    rwa [hvalue, Int.natAbs_of_nonneg (Int.not_lt.1 hn)] at h

theorem not_isBlank_of_isDigit {c : Char} (h : c.isDigit = true) : isBlank c = false := by
  simp only [Char.isDigit, Bool.and_eq_true, decide_eq_true_eq] at h
  have h₁ : 48 ≤ c.toNat := h.1
  have h₂ : c.toNat ≤ 57 := h.2
  simp only [isBlank, blankCodes, List.contains_eq_mem, decide_eq_false_iff_not, List.mem_cons,
    List.not_mem_nil, or_false]
  omega

/-- The decimal text of an integer holds no blank. -/
theorem not_isBlank_of_mem_toString {n : Int} {c : Char} (h : c ∈ (toString n).toList) :
    isBlank c = false := by
  rw [toList_toString_int, List.mem_append] at h
  rcases h with hsign | hdigit
  · split at hsign
    · rw [List.mem_singleton.1 hsign]
      decide
    · cases hsign
  · exact not_isBlank_of_isDigit (Nat.isDigit_of_mem_toDigits (by decide) (by decide) hdigit)

/-! ### Reading digits -/

/-- An integer given by its sign and magnitude. -/
def withSign (negative : Bool) (x : Nat) : Int := if negative then -(x : Int) else x

theorem digitValue?_eq_none_iff (c : Char) : digitValue? c = none ↔ c.isDigit = false := by
  simp [digitValue?, Char.isDigit, Char.le_def]

theorem digitValue?_eq_some {c : Char} {d : Nat} (h : digitValue? c = some d) :
    c.isDigit = true ∧ d = c.toNat - '0'.toNat := by
  simp only [digitValue?, Option.ite_none_right_eq_some, Option.some.injEq] at h
  exact ⟨by simpa [Char.isDigit, Char.le_def] using h.1, h.2.symm⟩

theorem le_ofDigitChars (ds : List Char) (init : Nat) : init ≤ Nat.ofDigitChars 10 ds init := by
  induction ds generalizing init with
  | nil => simp [Nat.ofDigitChars_nil]
  | cons c ds ih =>
    rw [Nat.ofDigitChars_cons]
    exact le_trans (by omega) (ih _)

/-- Reading digits onto a magnitude that is in range succeeds exactly when every character is
a digit and the whole value is in range. -/
theorem IntegerType.readDigits_eq_ok_iff (t : IntegerType) (negative : Bool) {acc : Nat}
    (hacc : t.fits (withSign negative acc)) (ds : List Char) (n : Int) :
    t.readDigits negative acc ds = .ok n ↔
      (∀ c ∈ ds, c.isDigit = true) ∧ n = withSign negative (Nat.ofDigitChars 10 ds acc) ∧
        t.fits n := by
  induction ds generalizing acc with
  | nil =>
    simp only [IntegerType.readDigits, Except.ok.injEq, List.not_mem_nil, false_implies,
      implies_true, Nat.ofDigitChars_nil, true_and]
    constructor
    · rintro rfl
      exact ⟨by simp [withSign], by simpa [withSign] using hacc⟩
    · rintro ⟨rfl, -⟩
      simp [withSign]
  | cons c ds ih =>
    simp only [IntegerType.fits, decide_eq_true_eq] at hacc
    cases hd : digitValue? c with
    | none =>
      have hc := (digitValue?_eq_none_iff c).1 hd
      simp [IntegerType.readDigits, hd, hc]
    | some d =>
      obtain ⟨hc, rfl⟩ := digitValue?_eq_some hd
      have hmono := le_ofDigitChars ds (10 * acc + (c.toNat - '0'.toNat))
      simp only [List.forall_mem_cons, hc, true_and, Nat.ofDigitChars_cons]
      cases negative with
      | true =>
        simp only [withSign, if_true] at hacc ih ⊢
        simp only [IntegerType.readDigits, hd, if_true]
        split
        · -- the magnitude already passes the least value, and only grows
          simp only [reduceCtorEq, false_iff, not_and, IntegerType.fits, decide_eq_true_eq]
          intro _ hn
          omega
        · exact ih (by simp only [IntegerType.fits, decide_eq_true_eq]; omega)
      | false =>
        simp only [withSign, Bool.false_eq_true, if_false] at hacc ih ⊢
        simp only [IntegerType.readDigits, hd, Bool.false_eq_true, if_false]
        split
        · simp only [reduceCtorEq, false_iff, not_and, IntegerType.fits, decide_eq_true_eq]
          intro _ hn
          omega
        · exact ih (by simp only [IntegerType.fits, decide_eq_true_eq]; omega)

/-! ### Reading an integer -/

section Read

variable (t : IntegerType)

theorem IntegerType.read_plus {ds : List Char} (hne : ds ≠ []) :
    t.read ('+' :: ds) = t.readDigits false 0 ds := by
  obtain ⟨d, ds, rfl⟩ := List.exists_cons_of_ne_nil hne
  rfl

theorem IntegerType.read_minus (hsigned : t.signed = true) {ds : List Char} (hne : ds ≠ []) :
    t.read ('-' :: ds) = t.readDigits true 0 ds := by
  obtain ⟨d, ds, rfl⟩ := List.exists_cons_of_ne_nil hne
  simp [IntegerType.read, hsigned]

theorem IntegerType.read_unsigned {c : Char} (hplus : c ≠ '+') (hminus : c ≠ '-')
    (ds : List Char) : t.read (c :: ds) = t.readDigits false 0 (c :: ds) := by
  unfold IntegerType.read
  split <;> simp_all

/-- A signed type whose range holds zero reads exactly the decimal texts of its values. -/
theorem IntegerType.read_eq_ok_iff (hsigned : t.signed = true) (hzero : t.fits 0)
    (s : List Char) (n : Int) : t.read s = .ok n ↔ DecimalText s n ∧ t.fits n := by
  have hacc (negative : Bool) : t.fits (withSign negative 0) := by
    cases negative <;> simpa [withSign] using hzero
  constructor
  · intro h
    match s, h with
    | [], h => simp [IntegerType.read] at h
    | c :: ds, h =>
      by_cases hplus : c = '+'
      · subst hplus
        cases ds with
        | nil => simp [IntegerType.read] at h
        | cons d ds =>
          rw [read_plus t (List.cons_ne_nil d ds), t.readDigits_eq_ok_iff false (hacc false)] at h
          obtain ⟨hdigits, rfl, hfits⟩ := h
          exact ⟨.plus (List.cons_ne_nil d ds) hdigits, hfits⟩
      by_cases hminus : c = '-'
      · subst hminus
        cases ds with
        | nil => simp [IntegerType.read] at h
        | cons d ds =>
          rw [read_minus t hsigned (List.cons_ne_nil d ds),
            t.readDigits_eq_ok_iff true (hacc true)] at h
          obtain ⟨hdigits, rfl, hfits⟩ := h
          exact ⟨.minus (List.cons_ne_nil d ds) hdigits, hfits⟩
      rw [read_unsigned t hplus hminus, t.readDigits_eq_ok_iff false (hacc false)] at h
      obtain ⟨hdigits, rfl, hfits⟩ := h
      exact ⟨.unsigned (List.cons_ne_nil c ds) hdigits, hfits⟩
  · rintro ⟨hs, hfits⟩
    cases hs with
    | unsigned hne hdigits =>
      obtain ⟨c, ds, rfl⟩ := List.exists_cons_of_ne_nil hne
      -- a digit is neither sign
      have hc := hdigits c List.mem_cons_self
      have hplus : c ≠ '+' := by rintro rfl; simp at hc
      have hminus : c ≠ '-' := by rintro rfl; simp at hc
      rw [read_unsigned t hplus hminus, t.readDigits_eq_ok_iff false (hacc false)]
      exact ⟨hdigits, rfl, hfits⟩
    | plus hne hdigits =>
      rw [read_plus t hne, t.readDigits_eq_ok_iff false (hacc false)]
      exact ⟨hdigits, rfl, hfits⟩
    | minus hne hdigits =>
      rw [read_minus t hsigned hne, t.readDigits_eq_ok_iff true (hacc true)]
      exact ⟨hdigits, rfl, hfits⟩

/-- Every value of a signed type whose range holds zero reads back from its decimal text. -/
theorem IntegerType.read_toString (hsigned : t.signed = true) (hzero : t.fits 0) {n : Int}
    (hn : t.fits n) : t.read (toString n).toList = .ok n :=
  (t.read_eq_ok_iff hsigned hzero _ n).2 ⟨decimalText_toString n, hn⟩

end Read

end Text

/-! ### Integer fields -/

namespace Metadata

open Text

theorem requireInt_of_get?_eq_none {m : Metadata} {k : String} (h : m.get? k = none) :
    m.requireInt k = .error (.missingField k) := by
  simp [requireInt, require, h, bind, Except.bind]

theorem requireInt_of_read_ok {m : Metadata} {k raw : String} {n : Int} (h : m.get? k = some raw)
    (hr : int64.read (trimBlank raw.toList) = .ok n) : m.requireInt k = .ok n := by
  simp [requireInt, require, h, hr, bind, Except.bind]

theorem requireInt_of_read_error {m : Metadata} {k raw : String} {e : IntegerError}
    (h : m.get? k = some raw) (hr : int64.read (trimBlank raw.toList) = .error e) :
    m.requireInt k = .error (.invalidFieldFormat k raw) := by
  simp [requireInt, require, h, hr, bind, Except.bind]

/-- An integer field is missing exactly when absent; when present it holds the integer its
trimmed text is decimal text of, if that is a 64-bit value, and is otherwise an invalid field
shown as given; and every 64-bit value written in decimal between blanks reads back. -/
theorem requireInt_decimal (m : Metadata) (k : String) :
    (m.requireInt k = .error (.missingField k) ↔ m.get? k = none) ∧
    (∀ raw, m.get? k = some raw →
      (∀ n, m.requireInt k = .ok n ↔ DecimalText (trimBlank raw.toList) n ∧ int64.fits n) ∧
      (m.requireInt k = .error (.invalidFieldFormat k raw) ↔
        ¬ ∃ n, DecimalText (trimBlank raw.toList) n ∧ int64.fits n)) ∧
    (∀ (n : Int) (lead trail : List Char), int64.fits n → (∀ c ∈ lead, isBlank c = true) →
      (∀ c ∈ trail, isBlank c = true) →
      m.get? k = some (String.ofList (lead ++ (toString n).toList ++ trail)) →
      m.requireInt k = .ok n) := by
  have hread := int64.read_eq_ok_iff rfl (by decide)
  have hpresent : ∀ raw, m.get? k = some raw →
      (∀ n, m.requireInt k = .ok n ↔ DecimalText (trimBlank raw.toList) n ∧ int64.fits n) ∧
      (m.requireInt k = .error (.invalidFieldFormat k raw) ↔
        ¬ ∃ n, DecimalText (trimBlank raw.toList) n ∧ int64.fits n) := by
    intro raw h
    cases hr : int64.read (trimBlank raw.toList) with
    | ok n' =>
      rw [requireInt_of_read_ok h hr]
      refine ⟨fun n => by rw [← hread, hr, Except.ok.injEq, Except.ok.injEq], ?_⟩
      simp only [reduceCtorEq, false_iff, not_not]
      exact ⟨n', (hread _ n').1 hr⟩
    | error e =>
      rw [requireInt_of_read_error h hr]
      refine ⟨fun n => by rw [← hread, hr]; simp, ?_⟩
      simp only [true_iff, not_exists]
      intro n hn
      rw [← hread, hr] at hn
      cases hn
  refine ⟨⟨fun h => ?_, requireInt_of_get?_eq_none⟩, hpresent, ?_⟩
  · cases hk : m.get? k with
    | none => rfl
    | some raw =>
      -- a present field is read as an integer or is an invalid field, never a missing one
      cases hr : int64.read (trimBlank raw.toList) with
      | ok n => rw [requireInt_of_read_ok hk hr] at h; cases h
      | error e => rw [requireInt_of_read_error hk hr] at h; cases h
  · intro n lead trail hn hlead htrail hk
    have htrim : trimBlank (lead ++ (toString n).toList ++ trail) = (toString n).toList :=
      trimBlank_padded hlead htrail
        (fun c hc => not_isBlank_of_mem_toString (List.mem_of_mem_head? hc))
        (fun c hc => not_isBlank_of_mem_toString (List.mem_of_mem_getLast? hc))
    apply requireInt_of_read_ok hk
    rw [String.toList_ofList, htrim]
    exact int64.read_toString rfl (by decide) hn

/-- The least 64-bit value, between a space and an ideographic space, reads back. -/
theorem requireInt_least_padded :
    int64.fits (-9223372036854775808) ∧
      (⟨[("songPlayed", " -9223372036854775808　")]⟩ : Metadata).requireInt "songPlayed" =
        .ok (-9223372036854775808) :=
  ⟨by decide +kernel, (requireInt_decimal _ "songPlayed").2.2 _ [' '] ['　'] (by decide +kernel)
    (by simp only [List.mem_singleton, forall_eq]; decide)
    (by simp only [List.mem_singleton, forall_eq]; decide) rfl⟩

end Metadata

end Scrobbler
