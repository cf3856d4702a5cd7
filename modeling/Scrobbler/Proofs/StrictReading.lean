import Scrobbler.Proofs.MetadataFields

/-!
# Where strict reading stops

Strict reading goes through the lines of a metadata block in order and stops at the first line
that holds no field: one that is empty once trimmed, or has no `=`. It reports that line by its
number and its trimmed text. The number counts every line before it, blank ones included, and
so is one more than the number of line feeds in the text before the line starts: a carriage
return before a line feed belongs to the line ending, and one anywhere else starts no line.

The proof goes in two layers. Over a list of lines, `addLines` fails exactly at the first line
without a field, numbered from where it started (`Metadata.addLines_strict_eq_error_iff`). Over
a text, such a line stands at a place `LineAt pre piece post` whose lines before it are those
of `pre`, one for each of its line feeds (`Text.length_lines_of_ended`).

## Main statements

* `Metadata.parse_strict_first_malformed`: strict reading fails exactly when some line holds no
  field, and then at the first one, numbered by the line feeds before it; what follows that line
  does not change the answer.
-/

namespace Scrobbler

open Text

/-! ### The text a line is reported with -/

/-- A line that holds no field is reported by its trimmed text. -/
theorem Line.text_of_field?_eq_none {cs : List Char} (h : (Line.ofChars cs).field? = none) :
    (Line.ofChars cs).text = String.ofList (trimBlank cs) := by
  simp only [Line.ofChars] at h ⊢
  split
  · rename_i hempty
    simp [Line.text, List.isEmpty_iff.1 hempty]
  · rename_i hempty
    rw [if_neg hempty] at h
    split
    · rfl
    · rename_i heq
      rw [heq] at h
      simp [Line.field?] at h

theorem Line.ofChars_field?_eq_none_iff (cs : List Char) :
    (Line.ofChars cs).field? = none ↔ '=' ∉ trimBlank cs := by
  rw [← Option.not_isSome_iff_eq_none, Line.ofChars_isEntry_iff]

namespace Metadata

/-! ### Reading lines strictly, one at a time -/

section Step

variable {mode : ParseMode} {n : Nat} {l : List Char} {ls : List (List Char)} {m : Metadata}

theorem addLines_cons_of_entry {k v : String} (h : Line.ofChars l = .entry k v) :
    addLines mode n (l :: ls) m = addLines mode (n + 1) ls (m.insert k v) := by
  simp [addLines, h]

theorem addLines_strict_cons_of_field?_eq_none (h : (Line.ofChars l).field? = none) :
    addLines .strict n (l :: ls) m = .error (.malformedLine n (String.ofList (trimBlank l))) := by
  rw [← Line.text_of_field?_eq_none h]
  cases hl : Line.ofChars l with
  | entry k v => simp [hl, Line.field?] at h
  | blank => simp [addLines, hl]
  | malformed t => simp [addLines, hl]

end Step

/-- Strict reading of lines fails exactly at the first line that holds no field, numbered from
the number of the first line read. -/
theorem addLines_strict_eq_error_iff (n : Nat) (ls : List (List Char)) (m : Metadata)
    (e : MetadataError) :
    addLines .strict n ls m = .error e ↔
      ∃ good l rest, ls = good ++ l :: rest ∧ (∀ g ∈ good, (Line.ofChars g).field?.isSome) ∧
        (Line.ofChars l).field? = none ∧
        e = .malformedLine (n + good.length) (String.ofList (trimBlank l)) := by
  induction ls generalizing n m with
  | nil => simp [addLines]
  | cons l ls ih =>
    cases hf : (Line.ofChars l).field? with
    | none =>
      -- the first line holds no field: reading stops here, and no line before it is good
      rw [addLines_strict_cons_of_field?_eq_none hf]
      constructor
      · rintro ⟨⟩
        exact ⟨[], l, ls, rfl, by simp, hf, by simp⟩
      · rintro ⟨good, l', rest, hls, hgood, -, rfl⟩
        cases good with
        | nil =>
          obtain ⟨rfl, -⟩ := List.cons.inj hls
          simp
        | cons g good =>
          obtain ⟨rfl, -⟩ := List.cons.inj hls
          simp [hf] at hgood
    | some p =>
      -- the first line holds a field: reading goes on with the next number
      obtain ⟨k, v⟩ := p
      rw [addLines_cons_of_entry (Line.eq_entry_of_field?_eq_some hf), ih]
      constructor
      · rintro ⟨good, l', rest, rfl, hgood, hl', rfl⟩
        refine ⟨l :: good, l', rest, rfl, ?_, hl', ?_⟩
        · exact List.forall_mem_cons.2 ⟨by simp [hf], hgood⟩
        · simp only [List.length_cons, MetadataError.malformedLine.injEq, and_true]
          omega
      · rintro ⟨good, l', rest, hls, hgood, hl', rfl⟩
        cases good with
        | nil =>
          obtain ⟨rfl, -⟩ := List.cons.inj hls
          simp [hf] at hl'
        | cons g good =>
          obtain ⟨rfl, rfl⟩ := List.cons.inj hls
          refine ⟨good, l', rest, rfl, fun g' hg' => hgood g' (by simp [hg']), hl', ?_⟩
          simp only [List.length_cons, MetadataError.malformedLine.injEq, and_true]
          omega

/-- Strict reading of lines fails as soon as one of them holds no field. -/
theorem addLines_strict_error_of_mem (n : Nat) {ls : List (List Char)} (m : Metadata)
    {l : List Char} (hl : l ∈ ls) (hf : (Line.ofChars l).field? = none) :
    ∃ e, addLines .strict n ls m = .error e := by
  induction ls generalizing n m with
  | nil => simp at hl
  | cons l' ls ih =>
    cases hf' : (Line.ofChars l').field? with
    | none => exact ⟨_, addLines_strict_cons_of_field?_eq_none hf'⟩
    | some p =>
      obtain ⟨k, v⟩ := p
      -- the line without a field is further on
      have hmem : l ∈ ls := by
        rcases List.mem_cons.1 hl with rfl | hmem
        · simp [hf] at hf'
        · exact hmem
      rw [addLines_cons_of_entry (Line.eq_entry_of_field?_eq_some hf')]
      exact ih (n + 1) _ hmem

/-! ### Reading a text strictly -/

/-- A line of the text without a field, after lines that all hold one, is where strict reading
stops, and it is numbered by the line feeds before it. -/
theorem parse_strict_of_lineAt {input : String} {pre piece post : List Char}
    (hinput : input.toList = pre ++ piece ++ post) (hat : LineAt pre piece post)
    (hpiece : '=' ∉ trimBlank piece) (hbefore : ∀ l ∈ lines pre, '=' ∈ trimBlank l) :
    parse input .strict =
      .error (.malformedLine (pre.count '\n' + 1) (String.ofList (trimBlank piece))) := by
  obtain ⟨l, rest, hlines, htrim⟩ := lines_of_lineAt hat
  have hsplit : lines input.toList = lines pre ++ l :: rest := by
    rw [hinput, List.append_assoc, lines_append_of_ended hat.start, hlines]
  have hl : (Line.ofChars l).field? = none := by
    rwa [Line.ofChars_field?_eq_none_iff, htrim]
  refine (addLines_strict_eq_error_iff 1 _ empty _).2
    ⟨lines pre, l, rest, hsplit, fun g hg => (Line.ofChars_isEntry_iff g).2 (hbefore g hg), hl, ?_⟩
  rw [length_lines_of_ended hat.start, htrim, Nat.add_comm]

/-- Strict reading rejects exactly the texts with a line that is blank or has no `=` once
trimmed. It reports the first such line: its trimmed text, and its number, one more than the
line feeds before it (blank lines count, a carriage return before a line feed adds nothing, and
one anywhere else starts no line). What follows that line does not change the answer. -/
theorem parse_strict_first_malformed (input : String) :
    (∀ e, parse input .strict = .error e ↔
      ∃ pre piece post, input.toList = pre ++ piece ++ post ∧ LineAt pre piece post ∧
        '=' ∉ trimBlank piece ∧ (∀ l ∈ lines pre, '=' ∈ trimBlank l) ∧
        e = .malformedLine (pre.count '\n' + 1) (String.ofList (trimBlank piece))) ∧
    ((∃ e, parse input .strict = .error e) ↔ ∃ l ∈ lines input.toList, '=' ∉ trimBlank l) ∧
    (∀ pre piece post post', input.toList = pre ++ piece ++ post → LineAt pre piece post →
      '=' ∉ trimBlank piece → (∀ l ∈ lines pre, '=' ∈ trimBlank l) → LineAt pre piece post' →
      parse (String.ofList (pre ++ piece ++ post')) .strict = parse input .strict) := by
  refine ⟨fun e => ⟨fun h => ?_, ?_⟩, ⟨?_, ?_⟩, ?_⟩
  · -- the failing line found among the lines stands at a place in the text
    obtain ⟨good, l, rest, hls, hgood, hl, rfl⟩ :=
      (addLines_strict_eq_error_iff 1 _ empty e).1 h
    obtain ⟨pre, piece, post, hinput, hat, hpre, htrim⟩ := exists_lineAt_of_lines_eq hls
    refine ⟨pre, piece, post, hinput, hat, ?_, ?_, ?_⟩
    · rwa [Line.ofChars_field?_eq_none_iff, ← htrim] at hl
    · exact fun l' hl' => (Line.ofChars_isEntry_iff l').1 (hgood l' (hpre ▸ hl'))
    · rw [htrim, ← hpre, length_lines_of_ended hat.start, Nat.add_comm]
  · rintro ⟨pre, piece, post, hinput, hat, hpiece, hbefore, rfl⟩
    exact parse_strict_of_lineAt hinput hat hpiece hbefore
  · rintro ⟨e, h⟩
    obtain ⟨good, l, rest, hls, -, hl, -⟩ := (addLines_strict_eq_error_iff 1 _ empty e).1 h
    exact ⟨l, by simp [hls], (Line.ofChars_field?_eq_none_iff l).1 hl⟩
  · rintro ⟨l, hl, hnone⟩
    exact addLines_strict_error_of_mem 1 empty hl ((Line.ofChars_field?_eq_none_iff l).2 hnone)
  · intro pre piece post post' hinput hat hpiece hbefore hat'
    rw [parse_strict_of_lineAt hinput hat hpiece hbefore,
      parse_strict_of_lineAt String.toList_ofList hat' hpiece hbefore]

/-- A lone carriage return starts no line, and a carriage return before a line feed is part of
the line ending: the blank second line is the one reported. -/
example : parse "a=1\rb\r\n \r\nc" .strict = .error (.malformedLine 2 "") := by decide

end Metadata

end Scrobbler
