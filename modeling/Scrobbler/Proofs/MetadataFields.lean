import Scrobbler.Proofs.Lines
import Scrobbler.Player.Metadata
import Mathlib.Data.String.Basic
import Mathlib.Data.List.TakeWhile
import Mathlib.Data.Finset.Card

/-!
# Reading the fields of a metadata block

What reading a metadata block does, stated once for each layer so that the theorems about
whole blocks never unfold the reader:

* a line is a field exactly when its trimmed form holds `=`, and the field's key is what
  stands before the first `=` (`Line.ofChars_of_trimBlank_eq`, `Line.ofChars_eq_entry`);
* `insertField` keeps keys in increasing order and replaces the value of a key it already
  has, so a fold of insertions holds each key once, with its last value
  (`Metadata.get?_insertAll`, `Metadata.size_insertAll_empty`);
* lenient reading of any lines, and strict reading of lines that are all fields, is that fold
  over the fields of the lines in order (`Metadata.addLines_lenient`,
  `Metadata.addLines_of_forall_isSome`); strict reading, when it succeeds, gives what lenient
  reading gives.
-/

namespace Scrobbler

open Text

/-! ### The field a line holds -/

namespace Line

/-- The field of a line that holds one. -/
def field? : Line → Option (String × String)
  | .entry k v => some (k, v)
  | _ => none

theorem eq_entry_of_field?_eq_some {l : Line} {k v : String} (h : l.field? = some (k, v)) :
    l = .entry k v := by
  cases l <;> simp_all [field?]

theorem ofChars_eq_of_trimBlank_eq {cs cs' : List Char} (h : trimBlank cs = trimBlank cs') :
    ofChars cs = ofChars cs' := by
  simp only [ofChars, h]

theorem ofChars_dropReturn (cs : List Char) : ofChars (dropReturn cs) = ofChars cs :=
  ofChars_eq_of_trimBlank_eq (trimBlank_dropReturn cs)

/-- A line whose trimmed form is `key=value`, with no `=` in the key, is that field. -/
theorem ofChars_of_trimBlank_eq {cs key value : List Char} (h : trimBlank cs = key ++ '=' :: value)
    (hkey : '=' ∉ key) : ofChars cs = .entry (String.ofList key) (String.ofList value) := by
  have hpos : ∀ c ∈ key, decide (c ≠ '=') = true := fun c hc => by
    simpa using ne_of_mem_of_not_mem hc hkey
  dsimp only [ofChars]
  rw [h, List.dropWhile_append_of_pos hpos, List.takeWhile_append_of_pos hpos,
    List.dropWhile_cons_of_neg (by simp), List.takeWhile_cons_of_neg (by simp)]
  simp

theorem ofChars_eq_entry {cs : List Char} {k v : String} (h : ofChars cs = .entry k v) :
    ∃ key value, trimBlank cs = key ++ '=' :: value ∧ '=' ∉ key ∧
      k = String.ofList key ∧ v = String.ofList value := by
  dsimp only [ofChars] at h
  split at h
  · cases h
  split at h
  · cases h
  rename_i c value hdrop
  injection h with hk hv
  -- `dropWhile` stopped at `c`, so `c` is the first `=`
  have hc : c = '=' := by
    have := List.head?_dropWhile_not (fun c => decide (c ≠ '=')) (trimBlank cs)
    rw [hdrop] at this
    simpa using this
  subst hc
  refine ⟨_, value, ?_, fun hmem => ?_, hk.symm, hv.symm⟩
  · rw [← hdrop, List.takeWhile_append_dropWhile]
  · simpa using List.mem_takeWhile_imp hmem

theorem ofChars_isEntry_iff (cs : List Char) :
    (ofChars cs).field?.isSome ↔ '=' ∈ trimBlank cs := by
  constructor
  · intro h
    obtain ⟨⟨k, v⟩, hkv⟩ := Option.isSome_iff_exists.1 h
    obtain ⟨key, value, ht, -⟩ := ofChars_eq_entry (eq_entry_of_field?_eq_some hkv)
    simp [ht]
  · intro h
    obtain ⟨key, value, ht, hkey⟩ := List.eq_append_cons_of_mem h
    simp [ofChars_of_trimBlank_eq ht hkey, field?]

end Line

/-! ### Inserting a field -/

section InsertField

variable {k v k₀ v₀ : String} {l : List (String × String)}

theorem insertField_cons_self : insertField k v ((k, v₀) :: l) = (k, v) :: l := by
  simp [insertField]

theorem insertField_cons_of_lt (h : k < k₀) :
    insertField k v ((k₀, v₀) :: l) = (k, v) :: (k₀, v₀) :: l := by
  rw [insertField, if_neg (ne_of_lt h), if_pos h]

theorem insertField_cons_of_gt (h : k₀ < k) :
    insertField k v ((k₀, v₀) :: l) = (k₀, v₀) :: insertField k v l := by
  rw [insertField, if_neg (ne_of_gt h), if_neg (lt_asymm h)]

theorem lookup_cons_of_ne {k' : String} (h : k' ≠ k₀) :
    ((k₀, v₀) :: l).lookup k' = l.lookup k' := by
  simp [List.lookup_cons, beq_false_of_ne h]

theorem lookup_insertField (k' : String) (l : List (String × String)) :
    (insertField k v l).lookup k' = if k' = k then some v else l.lookup k' := by
  induction l with
  | nil => by_cases hk : k' = k <;> simp [insertField, hk, beq_false_of_ne]
  | cons p l ih =>
    obtain ⟨k₀, v₀⟩ := p
    by_cases hk : k' = k
    · subst hk
      rcases lt_trichotomy k' k₀ with hlt | rfl | hgt
      · simp [insertField_cons_of_lt hlt]
      · simp [insertField_cons_self]
      · simp [insertField_cons_of_gt hgt, lookup_cons_of_ne (ne_of_gt hgt), ih]
    · rcases lt_trichotomy k k₀ with hlt | rfl | hgt
      · simp [insertField_cons_of_lt hlt, lookup_cons_of_ne hk, hk]
      · simp [insertField_cons_self, lookup_cons_of_ne hk, hk]
      · by_cases hk₀ : k' = k₀
        · subst hk₀
          simp [insertField_cons_of_gt hgt, hk]
        · simp [insertField_cons_of_gt hgt, lookup_cons_of_ne hk₀, ih, hk]

theorem mem_keys_insertField (k' : String) (l : List (String × String)) :
    k' ∈ (insertField k v l).map Prod.fst ↔ k' = k ∨ k' ∈ l.map Prod.fst := by
  induction l with
  | nil => simp [insertField]
  | cons p l ih =>
    obtain ⟨k₀, v₀⟩ := p
    rcases lt_trichotomy k k₀ with hlt | rfl | hgt
    · simp [insertField_cons_of_lt hlt]
    · simp [insertField_cons_self]
    · simp only [insertField_cons_of_gt hgt, List.map_cons, List.mem_cons, ih]
      tauto

theorem mem_insertField {p : String × String} (h : p ∈ insertField k v l) : p = (k, v) ∨ p ∈ l := by
  induction l with
  | nil => simpa [insertField] using h
  | cons q l ih =>
    obtain ⟨k₀, v₀⟩ := q
    rcases lt_trichotomy k k₀ with hlt | rfl | hgt
    · simpa [insertField_cons_of_lt hlt] using h
    · rw [insertField_cons_self, List.mem_cons] at h
      rcases h with h | h <;> simp [h]
    · rw [insertField_cons_of_gt hgt, List.mem_cons] at h
      rcases h with h | h
      · simp [h]
      · rcases ih h with h | h <;> simp [h]

/-- Keys in increasing order stay so. -/
theorem insertField_sorted (h : (l.map Prod.fst).Pairwise (· < ·)) :
    ((insertField k v l).map Prod.fst).Pairwise (· < ·) := by
  induction l with
  | nil => simp [insertField]
  | cons p l ih =>
    obtain ⟨k₀, v₀⟩ := p
    simp only [List.map_cons, List.pairwise_cons] at h
    obtain ⟨hlt₀, hl⟩ := h
    rcases lt_trichotomy k k₀ with hlt | rfl | hgt
    · simp only [insertField_cons_of_lt hlt, List.map_cons, List.pairwise_cons, List.mem_cons,
        forall_eq_or_imp]
      exact ⟨⟨hlt, fun a ha => hlt.trans (hlt₀ a ha)⟩, hlt₀, hl⟩
    · simp only [insertField_cons_self, List.map_cons, List.pairwise_cons]
      exact ⟨hlt₀, hl⟩
    · -- the new key goes further along, above the first one
      simp only [insertField_cons_of_gt hgt, List.map_cons, List.pairwise_cons]
      refine ⟨fun a ha => ?_, ih hl⟩
      rcases (mem_keys_insertField a l).1 ha with rfl | ha
      · exact hgt
      · exact hlt₀ a ha

end InsertField

/-! ### Fields set one after another -/

namespace Metadata

/-- The keys of the fields are in increasing order, as `insert` keeps them. -/
def Sorted (m : Metadata) : Prop := (m.entries.map Prod.fst).Pairwise (· < ·)

/-- Sets fields in order, each replacing an earlier value of its key. -/
def insertAll (m : Metadata) (ps : List (String × String)) : Metadata :=
  ps.foldl (fun m p => m.insert p.1 p.2) m

variable {m : Metadata} {ps : List (String × String)}

@[simp] theorem insertAll_nil (m : Metadata) : m.insertAll [] = m := rfl

@[simp] theorem insertAll_cons (m : Metadata) (p : String × String) (ps : List (String × String)) :
    m.insertAll (p :: ps) = (m.insert p.1 p.2).insertAll ps := rfl

theorem get?_insert (k v k' : String) :
    (m.insert k v).get? k' = if k' = k then some v else m.get? k' :=
  lookup_insertField k' m.entries

theorem sorted_empty : empty.Sorted := List.Pairwise.nil

theorem Sorted.insert (h : m.Sorted) (k v : String) : (m.insert k v).Sorted :=
  insertField_sorted h

theorem Sorted.insertAll (h : m.Sorted) (ps : List (String × String)) : (m.insertAll ps).Sorted := by
  induction ps generalizing m with
  | nil => exact h
  | cons p ps ih => exact ih (h.insert p.1 p.2)

/-- A key's value after setting fields in order: its last value among them, else its value
before. -/
theorem get?_insertAll (m : Metadata) (ps : List (String × String)) (k : String) :
    (m.insertAll ps).get? k = (ps.reverse.lookup k).or (m.get? k) := by
  induction ps generalizing m with
  | nil => simp
  | cons p ps ih =>
    obtain ⟨k₀, v₀⟩ := p
    rw [insertAll_cons, ih, get?_insert, List.reverse_cons, List.lookup_append, Option.or_assoc]
    by_cases hk : k = k₀ <;> simp [hk, beq_false_of_ne]

/-- From no fields, a key has the value of the last field that sets it. -/
theorem get?_insertAll_empty_eq_some (ps : List (String × String)) (k v : String) :
    (empty.insertAll ps).get? k = some v ↔
      ∃ pre post, ps = pre ++ (k, v) :: post ∧ ∀ p ∈ post, p.1 ≠ k := by
  rw [get?_insertAll, show empty.get? k = none from rfl, Option.or_none, List.lookup_eq_some_iff]
  constructor
  · -- read backwards, the fields after the last one for `k` come first
    rintro ⟨l₁, l₂, h, hl₁⟩
    refine ⟨l₂.reverse, l₁.reverse, ?_, fun p hp => (bne_iff_ne.1 (hl₁ p (List.mem_reverse.1 hp))).symm⟩
    rw [← List.reverse_reverse ps, h]
    simp only [List.reverse_append, List.reverse_cons, List.append_assoc, List.singleton_append]
  · rintro ⟨pre, post, rfl, hpost⟩
    refine ⟨post.reverse, pre.reverse, ?_, fun p hp => bne_iff_ne.2 (hpost p (List.mem_reverse.1 hp)).symm⟩
    simp only [List.reverse_append, List.reverse_cons, List.append_assoc, List.singleton_append]

theorem get?_insertAll_empty_eq_none (ps : List (String × String)) (k : String) :
    (empty.insertAll ps).get? k = none ↔ ∀ p ∈ ps, p.1 ≠ k := by
  rw [get?_insertAll, show empty.get? k = none from rfl, Option.or_none, List.lookup_eq_none_iff]
  simp only [List.mem_reverse, bne_iff_ne, ne_comm]

theorem mem_keys_insertAll (m : Metadata) (ps : List (String × String)) (k : String) :
    k ∈ (m.insertAll ps).entries.map Prod.fst ↔ k ∈ m.entries.map Prod.fst ∨ k ∈ ps.map Prod.fst := by
  induction ps generalizing m with
  | nil => simp
  | cons p ps ih =>
    rw [insertAll_cons, ih]
    simp only [Metadata.insert, mem_keys_insertField, List.map_cons, List.mem_cons]
    tauto

theorem mem_entries_insertAll {p : String × String} (h : p ∈ (m.insertAll ps).entries) :
    p ∈ m.entries ∨ p ∈ ps := by
  induction ps generalizing m with
  | nil => exact .inl h
  | cons q ps ih =>
    rcases ih h with h | h
    · rcases mem_insertField h with rfl | h <;> simp [h]
    · simp [h]

theorem Sorted.size_eq_card (h : m.Sorted) : m.size = (m.entries.map Prod.fst).toFinset.card := by
  rw [List.toFinset_card_of_nodup (h.imp ne_of_lt), List.length_map]
  rfl

/-- Fields set in order from none hold each of their keys once. -/
theorem size_insertAll_empty (ps : List (String × String)) :
    (empty.insertAll ps).size = (ps.map Prod.fst).toFinset.card := by
  rw [(sorted_empty.insertAll ps).size_eq_card]
  congr 1
  ext k
  simp only [List.mem_toFinset, mem_keys_insertAll]
  simp [empty]

/-! ### Reading lines -/

/-- The fields that lines hold, in order. -/
def fieldsOf (ls : List (List Char)) : List (String × String) :=
  ls.filterMap fun l => (Line.ofChars l).field?

theorem mem_fieldsOf {p : String × String} {ls : List (List Char)} (h : p ∈ fieldsOf ls) :
    ∃ l ∈ ls, Line.ofChars l = .entry p.1 p.2 := by
  obtain ⟨l, hl, hp⟩ := List.mem_filterMap.1 h
  refine ⟨l, hl, ?_⟩
  cases hline : Line.ofChars l with
  | entry k v =>
    simp only [hline, Line.field?, Option.some.injEq] at hp
    subst hp
    rfl
  | blank => simp [hline, Line.field?] at hp
  | malformed t => simp [hline, Line.field?] at hp

/-- Lenient reading sets the fields the lines hold, in order, and passes over the rest. -/
theorem addLines_lenient (n : Nat) (ls : List (List Char)) (m : Metadata) :
    addLines .lenient n ls m = .ok (m.insertAll (fieldsOf ls)) := by
  induction ls generalizing n m with
  | nil => rfl
  | cons l ls ih =>
    cases hline : Line.ofChars l <;> simp [addLines, hline, ih, fieldsOf, Line.field?]

/-- Either way, lines that all hold fields are read as those fields, set in order. -/
theorem addLines_of_forall_isSome (mode : ParseMode) (n : Nat) {ls : List (List Char)}
    (h : ∀ l ∈ ls, (Line.ofChars l).field?.isSome) (m : Metadata) :
    addLines mode n ls m = .ok (m.insertAll (fieldsOf ls)) := by
  induction ls generalizing n m with
  | nil => rfl
  | cons l ls ih =>
    simp only [List.mem_cons, forall_eq_or_imp] at h
    obtain ⟨hl, hls⟩ := h
    cases hline : Line.ofChars l <;> simp_all [addLines, fieldsOf, Line.field?]

/-- Strict reading that succeeds gives what lenient reading gives. -/
theorem addLines_lenient_of_strict {n : Nat} {ls : List (List Char)} {m m' : Metadata}
    (h : addLines .strict n ls m = .ok m') : addLines .lenient n ls m = .ok m' := by
  induction ls generalizing n m with
  | nil => exact h
  | cons l ls ih =>
    cases hline : Line.ofChars l <;> simp_all [addLines]

theorem parse_lenient (input : String) :
    parse input .lenient = .ok (empty.insertAll (fieldsOf (lines input.toList))) :=
  addLines_lenient 1 _ empty

/-- Whatever the mode, a block that is read is the fields of its lines, set in order. -/
theorem eq_insertAll_of_parse {input : String} {mode : ParseMode} {m : Metadata}
    (h : parse input mode = .ok m) : m = empty.insertAll (fieldsOf (lines input.toList)) := by
  have hlenient : parse input .lenient = .ok m := by
    cases mode with
    | strict => exact addLines_lenient_of_strict h
    | lenient => exact h
  rw [parse_lenient] at hlenient
  exact (Except.ok.inj hlenient).symm

end Metadata

end Scrobbler
