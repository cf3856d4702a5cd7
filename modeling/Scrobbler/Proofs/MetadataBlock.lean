import Scrobbler.Proofs.MetadataFields

/-!
# Writing and reading a metadata block

The player writes a metadata block as one `key=value` line per field. This module says which
fields can be written so, and in which ways, and proves that reading gives them back.

A field can be written when its key has no `=` and no line feed and does not begin with a
blank, and its value has no line feed and does not end with a blank (`KeyFits`,
`ValueFits`). A `WrittenField` is such a field on its line: blanks before it, blanks after it,
and a line end, `\n` or `\r\n`, or none at all for the last line of a text. A `WrittenBlock` is
a list of written fields where only the last may lack a line end; the same key may appear more
than once.

## Main statements

* `parse_writtenBlock`: in both modes a written block reads as its fields, each key with the
  value of its last field, and the number of fields read is the number of distinct keys;
  conversely every field that any successful reading gives can be written.
* `parse_lenient_eq_strict_fieldLines`: lenient reading always succeeds, and reads a text as
  strict reading reads the text's lines that hold `=`, each ended by a line feed.
-/

namespace Scrobbler

open Text

/-! ### What can be written -/

/-- A key that a `key=value` line carries and gives back: no `=`, no line feed, and no blank at
its start. -/
def KeyFits (k : String) : Prop :=
  '=' ∉ k.toList ∧ '\n' ∉ k.toList ∧ ∀ c ∈ k.toList.head?, isBlank c = false

/-- A value that a `key=value` line carries and gives back: no line feed, and no blank at its
end. -/
def ValueFits (v : String) : Prop :=
  '\n' ∉ v.toList ∧ ∀ c ∈ v.toList.getLast?, isBlank c = false

/-- How a written line ends. -/
inductive Ending where
  /-- A line feed. -/
  | lf
  /-- A carriage return and a line feed. -/
  | crlf
  /-- Nothing: the text ends with the line. -/
  | eof
  deriving DecidableEq, Repr

/-- The characters that end a line. -/
def Ending.chars : Ending → List Char
  | .lf => ['\n']
  | .crlf => ['\r', '\n']
  | .eof => []

/-- A field written as one line: blanks, the key, `=`, the value, blanks, and the line end. The
padding holds blanks other than the line feed. -/
structure WrittenField where
  /-- The key. -/
  key : String
  /-- The value. -/
  value : String
  /-- The blanks before the key. -/
  lead : List Char
  /-- The blanks after the value. -/
  trail : List Char
  /-- How the line ends. -/
  ending : Ending
  /-- The key can be written. -/
  key_fits : KeyFits key
  /-- The value can be written. -/
  value_fits : ValueFits value
  /-- The padding before the key is blanks, none of them a line feed. -/
  lead_blank : ∀ c ∈ lead, isBlank c = true ∧ c ≠ '\n'
  /-- The padding after the value is blanks, none of them a line feed. -/
  trail_blank : ∀ c ∈ trail, isBlank c = true ∧ c ≠ '\n'

namespace WrittenField

variable (w : WrittenField)

/-- The line without its end. -/
def line : List Char := w.lead ++ (w.key.toList ++ '=' :: w.value.toList) ++ w.trail

/-- The line with its end. -/
def chars : List Char := w.line ++ w.ending.chars

theorem trimBlank_line : trimBlank w.line = w.key.toList ++ '=' :: w.value.toList := by
  apply trimBlank_padded (fun c hc => (w.lead_blank c hc).1) (fun c hc => (w.trail_blank c hc).1)
  · -- the body starts with the key's first character, or with `=` when the key is empty
    intro c hc
    cases hk : w.key.toList with
    | nil =>
      rw [hk] at hc
      simp only [List.nil_append, List.head?_cons, Option.mem_def, Option.some.injEq] at hc
      rw [← hc]
      decide
    | cons a ks =>
      rw [hk, List.cons_append, List.head?_cons, Option.mem_def, Option.some.injEq] at hc
      exact hc ▸ w.key_fits.2.2 a (by simp [hk])
  · -- the body ends with the value's last character, or with `=` when the value is empty
    intro c hc
    rw [List.getLast?_append_cons] at hc
    rcases List.eq_nil_or_concat w.value.toList with hv | ⟨vs, b, hv⟩
    · rw [hv] at hc
      simp only [List.getLast?_singleton, Option.mem_def, Option.some.injEq] at hc
      rw [← hc]
      decide
    · rw [hv, List.concat_eq_append, ← List.cons_append, List.getLast?_concat, Option.mem_def,
        Option.some.injEq] at hc
      exact hc ▸ w.value_fits.2 b (by simp [hv])

theorem ofChars_line : Line.ofChars w.line = .entry w.key w.value := by
  rw [Line.ofChars_of_trimBlank_eq w.trimBlank_line w.key_fits.1, String.ofList_toList,
    String.ofList_toList]

theorem chars_append_of_lf (h : w.ending = .lf) (rest : List Char) :
    w.chars ++ rest = w.line ++ '\n' :: rest := by
  simp [chars, h, Ending.chars]

/-- A line ended by `\r\n` is the line and its carriage return, ended by a line feed. -/
theorem chars_append_of_crlf (h : w.ending = .crlf) (rest : List Char) :
    w.chars ++ rest = (w.line ++ ['\r']) ++ '\n' :: rest := by
  simp [chars, h, Ending.chars]

theorem newline_not_mem_line : '\n' ∉ w.line := by
  simp only [line, List.mem_append, List.mem_cons, not_or]
  exact ⟨⟨fun h => (w.lead_blank _ h).2 rfl, w.key_fits.2.1, by decide, w.value_fits.1⟩,
    fun h => (w.trail_blank _ h).2 rfl⟩

end WrittenField

/-- Written fields, one after another; only the last may lack a line end. -/
structure WrittenBlock where
  /-- The fields, in the order they are written. -/
  fields : List WrittenField
  /-- Every line but the last has a line end. -/
  ended : ∀ w ∈ fields.dropLast, w.ending ≠ .eof

namespace WrittenBlock

/-- The text of a written block. -/
def text (b : WrittenBlock) : String := String.ofList (b.fields.flatMap WrittenField.chars)

/-- The key and value of each field, in the order they are written. -/
def pairs (b : WrittenBlock) : List (String × String) := b.fields.map fun w => (w.key, w.value)

end WrittenBlock

/-! ### Reading what was written -/

/-- Of fields where only the last may lack a line end, the first has one unless it is the last,
and the others are again such fields. -/
theorem ended_cons {w : WrittenField} {fs : List WrittenField}
    (h : ∀ w' ∈ (w :: fs).dropLast, w'.ending ≠ .eof) :
    (fs ≠ [] → w.ending ≠ .eof) ∧ ∀ w' ∈ fs.dropLast, w'.ending ≠ .eof := by
  cases fs with
  | nil => simp
  | cons w₁ fs =>
    rw [List.dropLast_cons_cons] at h
    exact ⟨fun _ => h w List.mem_cons_self, fun w' hw' => h w' (List.mem_cons_of_mem _ hw')⟩

/-- The lines of written fields are those fields, whatever their padding and line ends. -/
theorem lines_flatMap_chars {fs : List WrittenField} (h : ∀ w ∈ fs.dropLast, w.ending ≠ .eof) :
    (lines (fs.flatMap WrittenField.chars)).map Line.ofChars =
      fs.map fun w => .entry w.key w.value := by
  induction fs with
  | nil => rfl
  | cons w fs ih =>
    obtain ⟨hhead, hrest⟩ := ended_cons h
    rw [List.flatMap_cons, List.map_cons]
    cases hend : w.ending with
    | lf =>
      rw [w.chars_append_of_lf hend, lines_append_newline w.newline_not_mem_line, List.map_cons,
        Line.ofChars_dropReturn, w.ofChars_line, ih hrest]
    | crlf =>
      -- the carriage return before the line feed is dropped with it
      have hcr : '\n' ∉ w.line ++ ['\r'] := by simp [w.newline_not_mem_line]
      rw [w.chars_append_of_crlf hend, lines_append_newline hcr, dropReturn_append_return,
        List.map_cons, w.ofChars_line, ih hrest]
    | eof =>
      -- an unended line is the last one
      have hfs : fs = [] := by
        by_contra hfs
        exact hhead hfs hend
      subst hfs
      have hne : (w.line).isEmpty = false := by simp [WrittenField.line]
      rw [WrittenField.chars, hend, Ending.chars, List.flatMap_nil, List.append_nil,
        List.append_nil, lines_of_newline_not_mem w.newline_not_mem_line, hne]
      simp [w.ofChars_line]

/-- In both modes, a written block reads as its fields set in order. -/
theorem WrittenBlock.parse_text (b : WrittenBlock) (mode : ParseMode) :
    Metadata.parse b.text mode = .ok (Metadata.empty.insertAll b.pairs) := by
  have hmap := lines_flatMap_chars b.ended
  have hsome : ∀ l ∈ lines (b.fields.flatMap WrittenField.chars), (Line.ofChars l).field?.isSome := by
    intro l hl
    have hmem : Line.ofChars l ∈ b.fields.map fun w => Line.entry w.key w.value :=
      hmap ▸ List.mem_map_of_mem hl
    obtain ⟨w, -, hw⟩ := List.mem_map.1 hmem
    simp [← hw, Line.field?]
  have hfields : Metadata.fieldsOf (lines (b.fields.flatMap WrittenField.chars)) = b.pairs := by
    rw [Metadata.fieldsOf, ← Function.comp_def, ← List.filterMap_map, hmap, List.filterMap_map]
    simp [Function.comp_def, Line.field?, WrittenBlock.pairs]
  rw [Metadata.parse, WrittenBlock.text, String.toList_ofList,
    Metadata.addLines_of_forall_isSome mode 1 hsome, hfields]

example : Metadata.parse " artist=Foo \r\ntitle=a=b\nartist=Bar" .strict =
    .ok ⟨[("artist", "Bar"), ("title", "a=b")]⟩ := by
  rfl

/-- A field that reading gives can be written: reading finds it on a line whose trimmed form is
`key=value`, which holds no line feed. -/
theorem fits_of_ofChars_eq_entry {l : List Char} {k v : String} (hl : '\n' ∉ l)
    (h : Line.ofChars l = .entry k v) : KeyFits k ∧ ValueFits v := by
  obtain ⟨key, value, ht, hkey, rfl, rfl⟩ := Line.ofChars_eq_entry h
  have hsub : ∀ c ∈ key ++ '=' :: value, c ∈ l := fun c hc => mem_of_mem_trimBlank (ht ▸ hc)
  refine ⟨⟨by simpa using hkey, fun hk => hl (hsub _ (by simp_all)), fun c hc => ?_⟩,
    fun hv => hl (hsub _ (by simp_all)), fun c hc => ?_⟩
  · -- the key's first character is the trimmed line's first
    apply head?_trimBlank l c
    rw [String.toList_ofList] at hc
    obtain ⟨ks, rfl⟩ : ∃ ks, key = c :: ks := by
      cases key with
      | nil => simp at hc
      | cons a ks => exact ⟨ks, by simpa using hc⟩
    simp [ht]
  · -- the value's last character is the trimmed line's last
    apply getLast?_trimBlank l c
    rw [String.toList_ofList] at hc
    obtain ⟨vs, rfl⟩ := List.getLast?_eq_some_iff.1 hc
    rw [ht, ← List.cons_append, ← List.append_assoc, List.getLast?_concat]
    exact Option.mem_some_self c

/-- A written block reads back in both modes: each key has the value of the last field that
sets it, a key that no field sets has none, and there are as many fields as distinct keys.
Conversely, every field of every successful reading, in either mode, can be written. -/
theorem parse_writtenBlock :
    (∀ (b : WrittenBlock) (mode : ParseMode), ∃ m, Metadata.parse b.text mode = .ok m ∧
      (∀ k v, m.get? k = some v ↔
        ∃ pre post, b.pairs = pre ++ (k, v) :: post ∧ ∀ p ∈ post, p.1 ≠ k) ∧
      (∀ k, m.get? k = none ↔ ∀ p ∈ b.pairs, p.1 ≠ k) ∧
      m.size = (b.pairs.map Prod.fst).toFinset.card) ∧
    ∀ (input : String) (mode : ParseMode) (m : Metadata), Metadata.parse input mode = .ok m →
      ∀ p ∈ m.entries, KeyFits p.1 ∧ ValueFits p.2 := by
  refine ⟨fun b mode => ⟨_, b.parse_text mode, Metadata.get?_insertAll_empty_eq_some b.pairs,
    Metadata.get?_insertAll_empty_eq_none b.pairs, Metadata.size_insertAll_empty b.pairs⟩, ?_⟩
  intro input mode m h p hp
  rw [Metadata.eq_insertAll_of_parse h] at hp
  -- no field was there before reading, so the field comes from a line of the input
  rcases Metadata.mem_entries_insertAll hp with hp | hp
  · simp [Metadata.empty] at hp
  obtain ⟨l, hl, hentry⟩ := Metadata.mem_fieldsOf hp
  exact fits_of_ofChars_eq_entry (newline_not_mem_of_mem_lines hl) hentry

/-! ### Lenient reading -/

/-- The lines of a text that hold `=` once trimmed, each followed by a line feed. -/
def fieldLinesText (input : String) : String :=
  String.ofList (((lines input.toList).filter fun l => '=' ∈ trimBlank l).flatMap (· ++ ['\n']))

/-- The lines kept are the lines that hold fields, so the fields are the same. -/
theorem fieldsOf_filter_eq (ls : List (List Char)) :
    Metadata.fieldsOf (ls.filter fun l => '=' ∈ trimBlank l) = Metadata.fieldsOf ls := by
  rw [Metadata.fieldsOf, Metadata.fieldsOf, List.filterMap_filter]
  congr 1
  funext l
  by_cases h : '=' ∈ trimBlank l
  · simp [h]
  · have hnone : (Line.ofChars l).field? = none := by
      simpa [← Line.ofChars_isEntry_iff] using h
    simp [h, hnone]

/-- Lenient reading always succeeds, and reads a text as strict reading reads the text's lines
that hold `=`, each ended by a line feed; so whatever strict reading gives, lenient reading
gives too. -/
theorem parse_lenient_eq_strict_fieldLines (input : String) :
    (∃ m, Metadata.parse input .lenient = .ok m) ∧
    Metadata.parse input .lenient = Metadata.parse (fieldLinesText input) .strict ∧
    ∀ m, Metadata.parse input .strict = .ok m → Metadata.parse input .lenient = .ok m := by
  refine ⟨⟨_, Metadata.parse_lenient input⟩, ?_, fun m h => Metadata.addLines_lenient_of_strict h⟩
  set kept := (lines input.toList).filter fun l => '=' ∈ trimBlank l
  have hkept : ∀ l ∈ kept, '\n' ∉ l ∧ '=' ∈ trimBlank l := fun l hl => by
    obtain ⟨hl, hkeep⟩ := List.mem_filter.1 hl
    exact ⟨newline_not_mem_of_mem_lines hl, by simpa using hkeep⟩
  -- the kept lines come back as they were, less a carriage return at their end
  have hlines : lines (fieldLinesText input).toList = kept.map dropReturn := by
    rw [fieldLinesText, String.toList_ofList]
    exact lines_flatMap_newline fun l hl => (hkept l hl).1
  have hsome : ∀ l ∈ kept.map dropReturn, (Line.ofChars l).field?.isSome := by
    intro l hl
    obtain ⟨l', hl', rfl⟩ := List.mem_map.1 hl
    rw [Line.ofChars_dropReturn, Line.ofChars_isEntry_iff]
    exact (hkept l' hl').2
  have hfields : Metadata.fieldsOf (kept.map dropReturn) = Metadata.fieldsOf kept := by
    simp only [Metadata.fieldsOf, List.filterMap_map, Function.comp_def, Line.ofChars_dropReturn]
  rw [Metadata.parse_lenient, Metadata.parse, hlines,
    Metadata.addLines_of_forall_isSome .strict 1 hsome, hfields, fieldsOf_filter_eq]

example : fieldLinesText "a=1\ngarbage\n\n b = 2 \r" = "a=1\n b = 2 \r\n" := by
  rfl

end Scrobbler
