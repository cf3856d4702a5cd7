import Scrobbler.Proofs.Signing

/-!
# A signature depends only on the pairs sorted by key

A form is signed over its pairs sorted by key, and the sort is stable: pairs that share a key
stay in the order they were given. Keys are compared byte by byte in their UTF-8 encodings,
a key that begins another coming first. This module proves that the signature is the digest of the
pairs in the one order that has its keys ascending in that byte order and the pairs of each key
in their given order, and so that a reordering of the pairs that keeps the pairs of each key in
their order leaves the signature unchanged; when the keys are distinct, any reordering does.

Sorting by key compares texts character by character. That is the byte order because UTF-8
keeps the order of code points and no character's encoding begins another's.

## Main statements

* `lt_iff_utf8_lt`: texts compare as their UTF-8 bytes do.
* `Form.StablySorted.eq_sortByKey`: sorting by key gives the only stable sort in byte order.
* `Form.signature_sorted_by_key`: the signature is the digest of the stable sort, and pairs
  reordered without reordering those of one key sign alike.
-/

namespace Scrobbler

/-! ### Texts compare as their UTF-8 bytes -/

section ByteOrder

/-- A list before another, and no beginning of it, stays before it whatever follows each. -/
theorem append_lt_append_of_lt {α : Type} [LT α] {l m : List α} (h : l < m)
    (hne : ∀ t, l ++ t ≠ m) (x y : List α) : l ++ x < m ++ y := by
  induction l generalizing m with
  | nil => exact absurd (List.nil_append m) (hne m)
  | cons a l ih =>
    cases m with
    | nil => exact absurd h (List.not_lt_nil _)
    | cons b m =>
      rcases List.cons_lt_cons_iff.1 h with hab | ⟨rfl, hlm⟩
      · exact List.cons_lt_cons_iff.2 (.inl hab)
      · exact List.cons_lt_cons_iff.2
          (.inr ⟨rfl, ih hlm (fun t ht => hne t (by rw [List.cons_append, ht]))⟩)

/-- UTF-8 keeps the order of code points, byte by byte. -/
theorem utf8EncodeChar_lt {c d : Char} (h : c < d) :
    String.utf8EncodeChar c < String.utf8EncodeChar d := by
  have hcd : c.toNat < d.toNat := h
  have hd : d.toNat < 0x110000 := by
    have := d.valid
    simp only [UInt32.isValidChar, Nat.isValidChar] at this
    simp only [Char.toNat]
    omega
  simp only [String.utf8EncodeChar, Char.toNat_val]
  -- one case for each pair of encoding lengths; the bytes are digits of the code point
  split_ifs <;>
    simp only [List.cons_lt_cons_iff, UInt8.lt_iff_toNat_lt, ← UInt8.toNat_inj,
      UInt8.toNat_ofNat', List.nil_lt_cons, List.not_lt_nil, and_true, and_false, or_false,
      Nat.reducePow] <;>
    simp (disch := omega) only [Nat.mod_eq_of_lt] <;> omega

/-- No character's encoding begins another's. -/
theorem eq_of_utf8EncodeChar_append_eq {c d : Char} {t : List UInt8}
    (h : String.utf8EncodeChar c ++ t = String.utf8EncodeChar d) : c = d := by
  have hbytes : [c].utf8Encode ++ t.toByteArray = [d].utf8Encode := by
    rw [List.utf8Encode_singleton, List.utf8Encode_singleton, ← List.toByteArray_append, h]
  simpa using List.isPrefix_of_utf8Encode_append_eq_utf8Encode _ hbytes

/-- A common beginning decides nothing. -/
theorem append_lt_append_left_iff {α : Type} [LT α] [Std.Irrefl (· < · : α → α → Prop)]
    (l : List α) {x y : List α} : l ++ x < l ++ y ↔ x < y := by
  induction l with
  | nil => rfl
  | cons a l ih => simpa using ih

theorem utf8EncodeChar_append_lt {c d : Char} (h : c < d) (x y : List UInt8) :
    String.utf8EncodeChar c ++ x < String.utf8EncodeChar d ++ y :=
  append_lt_append_of_lt (utf8EncodeChar_lt h)
    (fun _ ht => Char.ne_of_lt h (eq_of_utf8EncodeChar_append_eq ht)) x y

theorem flatMap_utf8EncodeChar_lt_iff {l m : List Char} :
    l.flatMap String.utf8EncodeChar < m.flatMap String.utf8EncodeChar ↔ l < m := by
  induction l generalizing m with
  | nil =>
    cases m with
    | nil => simp
    | cons d m =>
      obtain ⟨b, bs, hb⟩ := List.exists_cons_of_ne_nil (String.utf8EncodeChar_ne_nil (c := d))
      simp [hb]
  | cons c l ih =>
    cases m with
    | nil => simp
    | cons d m =>
      simp only [List.flatMap_cons, List.cons_lt_cons_iff]
      rcases Nat.lt_trichotomy c.toNat d.toNat with hcd | hcd | hdc
      · -- the first characters decide, and so do their first differing bytes
        have hcd : c < d := hcd
        simp [hcd, utf8EncodeChar_append_lt hcd]
      · obtain rfl : c = d := Char.toNat_inj.1 hcd
        simp [append_lt_append_left_iff, ih]
      · have hdc : d < c := hdc
        simp [Char.lt_asymm hdc, Char.ne_of_lt hdc |>.symm,
          List.lt_asymm (utf8EncodeChar_append_lt hdc _ _)]

/-- The UTF-8 bytes of a text are the encodings of its characters, one after the other. -/
theorem utf8_bytes (s : String) :
    s.toUTF8.data.toList = s.toList.flatMap String.utf8EncodeChar := by
  rw [String.toUTF8_eq_toByteArray, ← String.utf8Encode_toList, List.utf8Encode,
    List.toList_data_toByteArray]

/-- Texts compare as their UTF-8 bytes do. -/
theorem lt_iff_utf8_lt {a b : String} : a < b ↔ a.toUTF8.data.toList < b.toUTF8.data.toList := by
  rw [utf8_bytes, utf8_bytes, flatMap_utf8EncodeChar_lt_iff]
  rfl

theorem le_iff_utf8_le {a b : String} :
    a ≤ b ↔ a.toUTF8.data.toList ≤ b.toUTF8.data.toList :=
  not_congr lt_iff_utf8_lt

end ByteOrder

/-! ### The stable sort by key -/

namespace Form

/-- `g` is `f` sorted stably by key in byte order: the keys of `g` ascend in the byte order of
their UTF-8 encodings, and the pairs of each key come in `g` in the order `f` has them. -/
structure StablySorted (f g : Form) : Prop where
  /-- Keys ascend in byte order. -/
  sorted : g.Pairwise fun a b => a.1.toUTF8.data.toList ≤ b.1.toUTF8.data.toList
  /-- The pairs of each key keep their order. -/
  stable : ∀ k, g.filter (fun p => p.1 == k) = f.filter (fun p => p.1 == k)

theorem mem_of_filter_key_eq {g h : Form}
    (hf : ∀ k, g.filter (fun p => p.1 == k) = h.filter (fun p => p.1 == k)) {x : String × String}
    (hx : x ∈ g) : x ∈ h := by
  have hx' : x ∈ g.filter (fun p => p.1 == x.1) := List.mem_filter.2 ⟨hx, by simp⟩
  rw [hf] at hx'
  exact (List.mem_filter.1 hx').1

/-- The first pair of a form sorted by key has the least key. -/
theorem head_key_le {a x : String × String} {g : Form}
    (hg : (a :: g).Pairwise fun a b => a.1 ≤ b.1) (hx : x ∈ a :: g) : a.1 ≤ x.1 := by
  rcases List.mem_cons.1 hx with rfl | hx
  · exact String.le_refl _
  · exact List.rel_of_pairwise_cons hg hx

/-- Two forms sorted by key, whose pairs of each key come in one order, are one form. -/
theorem eq_of_filter_key_eq {g h : Form} (hg : g.Pairwise fun a b => a.1 ≤ b.1)
    (hh : h.Pairwise fun a b => a.1 ≤ b.1)
    (hf : ∀ k, g.filter (fun p => p.1 == k) = h.filter (fun p => p.1 == k)) : g = h := by
  induction g generalizing h with
  | nil =>
    cases h with
    | nil => rfl
    | cons b h => simpa using hf b.1
  | cons a g ih =>
    cases h with
    | nil => simpa using hf a.1
    | cons b h =>
      -- each head has the least key, and the two forms hold the same pairs
      have hab : a.1 ≤ b.1 :=
        head_key_le hg (mem_of_filter_key_eq (fun k => (hf k).symm) List.mem_cons_self)
      have hba : b.1 ≤ a.1 := head_key_le hh (mem_of_filter_key_eq hf List.mem_cons_self)
      have hkey : a.1 = b.1 := String.le_antisymm hab hba
      -- so the pairs of that key begin with the two heads
      obtain ⟨rfl, -⟩ : a = b ∧ _ := by simpa [List.filter_cons, hkey] using hf a.1
      have htail : ∀ k, g.filter (fun p => p.1 == k) = h.filter (fun p => p.1 == k) := by
        intro k
        by_cases hk : a.1 = k <;> simpa [List.filter_cons, hk] using hf k
      rw [ih hg.of_cons hh.of_cons htail]

/-- Sorting by key keeps the pairs of each key in their order: they are sorted among
themselves, so merge sort leaves them as a sublist, and it drops none. -/
theorem filter_key_sortByKey (f : Form) (k : String) :
    f.sortByKey.filter (fun p => p.1 == k) = f.filter (fun p => p.1 == k) := by
  have hsorted : (f.filter fun p => p.1 == k).Pairwise fun a b => decide (a.1 ≤ b.1) := by
    refine List.pairwise_of_forall_mem_list fun a ha b hb => ?_
    simp only [List.mem_filter, beq_iff_eq] at ha hb
    simp [ha.2, hb.2]
  have hsub : (f.filter fun p => p.1 == k).Sublist f.sortByKey :=
    List.sublist_mergeSort keyOrder_trans keyOrder_total hsorted (List.filter_sublist)
  have hsub' : (f.filter fun p => p.1 == k).Sublist (f.sortByKey.filter fun p => p.1 == k) := by
    simpa [List.filter_filter] using hsub.filter (fun p => p.1 == k)
  exact (hsub'.eq_of_length ((sortByKey_perm f).filter _).length_eq.symm).symm

theorem stablySorted_sortByKey (f : Form) : StablySorted f f.sortByKey where
  sorted := (sortByKey_pairwise f).imp fun h => le_iff_utf8_le.1 (of_decide_eq_true h)
  stable := filter_key_sortByKey f

/-- Sorting by key gives the only stable sort in byte order. -/
theorem StablySorted.eq_sortByKey {f g : Form} (h : StablySorted f g) : g = f.sortByKey :=
  eq_of_filter_key_eq (h.sorted.imp le_iff_utf8_le.2)
    ((sortByKey_pairwise f).imp of_decide_eq_true)
    fun k => (h.stable k).trans (filter_key_sortByKey f k).symm

/-- Forms whose pairs of each key come in one order sort to one form. -/
theorem sortByKey_eq_of_filter_key_eq {f q : Form}
    (h : ∀ k, q.filter (fun p => p.1 == k) = f.filter (fun p => p.1 == k)) :
    q.sortByKey = f.sortByKey :=
  StablySorted.eq_sortByKey
    ⟨(stablySorted_sortByKey q).sorted, fun k => (filter_key_sortByKey q k).trans (h k)⟩

/-! ### The signature -/

theorem signature_eq_of_stablySorted {f g : Form} (h : StablySorted f g) (secret : String) :
    f.signature secret = Md5.hexDigest (String.join (g.map fun (k, v) => k ++ v) ++ secret) := by
  rw [signature, h.eq_sortByKey]

theorem signature_eq_of_filter_key_eq {f q : Form}
    (h : ∀ k, q.filter (fun p => p.1 == k) = f.filter (fun p => p.1 == k)) (secret : String) :
    q.signature secret = f.signature secret := by
  rw [signature, signature, sortByKey_eq_of_filter_key_eq h]

/-- The signature of a form is the digest of its pairs sorted stably by key in byte order, each
written as key then value, followed by the secret. So reordering the pairs leaves the signature
unchanged as long as the pairs of each key keep their order, and, when the keys are distinct,
whatever the order. -/
theorem signature_sorted_by_key (f : Form) (secret : String) :
    StablySorted f f.sortByKey ∧
    (∀ g, StablySorted f g →
      f.signature secret = Md5.hexDigest (String.join (g.map fun (k, v) => k ++ v) ++ secret)) ∧
    (∀ q : Form, (∀ k, q.filter (fun p => p.1 == k) = f.filter (fun p => p.1 == k)) →
      q.signature secret = f.signature secret) ∧
    (∀ q : Form, q.Perm f → (f.map Prod.fst).Nodup → q.signature secret = f.signature secret) :=
  ⟨stablySorted_sortByKey f, fun _ hg => signature_eq_of_stablySorted hg secret,
    fun _ hq => signature_eq_of_filter_key_eq hq secret,
    fun _ hq hk => signature_eq_of_perm hq ((hq.map Prod.fst).nodup_iff.2 hk) secret⟩

end Form

end Scrobbler
