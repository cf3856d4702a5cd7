import Scrobbler.Text.Lines
import Scrobbler.Text.Blank
import Mathlib.Data.List.DropRight

/-!
# Lines and trimming

`Text.lines` is defined through `List.splitOn`; here it is read one line at a time. A line
feed ends the line before it (`lines_append_newline`), a text without one is its own last
line (`lines_of_newline_not_mem`), and every text is built from those two shapes
(`lines_induction`). No line holds a line feed.

`Text.trimBlank` drops blanks from the left with `List.dropWhile` and from the right with
`List.rdropWhile`. What it keeps neither begins nor ends with a blank and is a piece of the
text it came from; a text padded with blanks around a body that neither begins nor ends with
one trims to that body (`trimBlank_padded`). A carriage return is blank, so the one that
`dropReturn` removes changes nothing once the line is trimmed.

A line of a text stands at a place in it (`LineAt`): after a line feed or at the start, up to
a line feed or to the end. The lines before that place are those of the text before it, one for
each line feed there (`length_lines_of_ended`), and every line of a text stands at such a place
(`exists_lineAt_of_lines_eq`).
-/

namespace Scrobbler

namespace Text

/-! ### Lines -/

theorem lines_of_newline_not_mem {cs : List Char} (h : '\n' ∉ cs) :
    lines cs = if cs.isEmpty then [] else [cs] := by
  simp [lines, List.splitOn_eq_singleton h]

theorem lines_append_newline {xs : List Char} (h : '\n' ∉ xs) (rest : List Char) :
    lines (xs ++ '\n' :: rest) = dropReturn xs :: lines rest := by
  have hne := List.splitOn_ne_nil '\n' rest
  -- the pieces of `rest` are not empty, so the piece before them is not the last one
  have hlast : (xs :: rest.splitOn '\n').getLastD [] = (rest.splitOn '\n').getLastD [] := by
    rw [List.getLastD_cons, List.getLastD_eq_getLast?, List.getLastD_eq_getLast?,
      List.getLast?_eq_some_getLast hne]
    rfl
  simp only [lines, List.splitOn_append_cons_self_of_not_mem h, List.dropLast_cons_of_ne_nil hne,
    List.map_cons, List.cons_append, hlast]

/-- Every text is read line by line: it is a last line without a line feed, or a line, a line
feed and more text. -/
@[elab_as_elim]
theorem lines_induction {motive : List Char → Prop} (last : ∀ cs, '\n' ∉ cs → motive cs)
    (line : ∀ xs rest, '\n' ∉ xs → motive rest → motive (xs ++ '\n' :: rest)) (cs : List Char) :
    motive cs := by
  -- the line read so far is carried along as `pre`, which holds no line feed
  suffices h : ∀ pre, '\n' ∉ pre → motive (pre ++ cs) from h [] (by simp)
  induction cs with
  | nil => exact fun pre hpre => by simpa using last pre hpre
  | cons c cs ih =>
    intro pre hpre
    by_cases hc : c = '\n'
    · subst hc
      exact line pre cs hpre (by simpa using ih [] (by simp))
    · simpa using ih (pre ++ [c]) (by simp [hpre, Ne.symm hc])

theorem newline_not_mem_dropReturn {xs : List Char} (h : '\n' ∉ xs) : '\n' ∉ dropReturn xs := by
  unfold dropReturn
  split
  · exact fun hl => h (List.dropLast_subset _ hl)
  · exact h

theorem newline_not_mem_of_mem_lines {cs l : List Char} (h : l ∈ lines cs) : '\n' ∉ l := by
  induction cs using lines_induction with
  | last cs hcs =>
    rw [lines_of_newline_not_mem hcs] at h
    split at h <;> simp_all
  | line xs rest hxs ih =>
    rw [lines_append_newline hxs] at h
    rcases List.mem_cons.1 h with rfl | h
    · exact newline_not_mem_dropReturn hxs
    · exact ih h

/-- Lines each followed by a line feed are read back as they were, less a carriage return
that ends one of them. -/
theorem lines_flatMap_newline {ls : List (List Char)} (h : ∀ l ∈ ls, '\n' ∉ l) :
    lines (ls.flatMap (· ++ ['\n'])) = ls.map dropReturn := by
  induction ls with
  | nil => rfl
  | cons l ls ih =>
    simp only [List.mem_cons, forall_eq_or_imp] at h
    rw [List.flatMap_cons, List.append_assoc, List.singleton_append, lines_append_newline h.1,
      ih h.2, List.map_cons]

@[simp] theorem dropReturn_append_return (xs : List Char) : dropReturn (xs ++ ['\r']) = xs := by
  simp [dropReturn]

/-! ### Trimming -/

theorem trimBlank_eq_rdropWhile (cs : List Char) :
    trimBlank cs = (cs.dropWhile isBlank).rdropWhile isBlank := rfl

theorem trimBlank_append_blank {c : Char} (hc : isBlank c = true) (cs : List Char) :
    trimBlank (cs ++ [c]) = trimBlank cs := by
  simp only [trimBlank, List.dropWhile_append]
  split
  · rename_i h
    simp [List.isEmpty_iff.1 h, hc]
  · simp [hc]

theorem trimBlank_dropReturn (cs : List Char) : trimBlank (dropReturn cs) = trimBlank cs := by
  unfold dropReturn
  split
  · rename_i h
    obtain ⟨ys, rfl⟩ := List.getLast?_eq_some_iff.1 h
    rw [List.dropLast_concat, trimBlank_append_blank (by decide)]
  · rfl

/-- A body between blanks, neither beginning nor ending with a blank, is what trimming
keeps. -/
theorem trimBlank_padded {lead body trail : List Char} (hlead : ∀ c ∈ lead, isBlank c = true)
    (htrail : ∀ c ∈ trail, isBlank c = true) (hhead : ∀ c ∈ body.head?, isBlank c = false)
    (hlast : ∀ c ∈ body.getLast?, isBlank c = false) :
    trimBlank (lead ++ body ++ trail) = body := by
  rw [trimBlank_eq_rdropWhile, List.append_assoc, List.dropWhile_append_of_pos hlead]
  cases body with
  | nil => simp [List.dropWhile_eq_nil_iff.2 htrail]
  | cons b bs =>
    -- trimming stops at the first character of the body on the left, at its last on the right
    rw [List.cons_append, List.dropWhile_cons_of_neg (by simpa using hhead b rfl),
      ← List.cons_append]
    simp only [List.rdropWhile, List.reverse_append,
      List.dropWhile_append_of_pos (fun c hc => htrail c (List.mem_reverse.1 hc))]
    refine List.rdropWhile_eq_self_iff.2 fun hne => ?_
    simpa using hlast _ (List.getLast_mem_getLast? hne)

theorem head?_trimBlank (cs : List Char) : ∀ c ∈ (trimBlank cs).head?, isBlank c = false := by
  intro c hc
  have hfirst := List.head?_dropWhile_not isBlank cs
  obtain ⟨t, ht⟩ := List.rdropWhile_prefix isBlank (cs.dropWhile isBlank)
  rw [← trimBlank_eq_rdropWhile] at ht
  have hhead : (trimBlank cs ++ t).head? = some c := by
    rw [List.head?_append, Option.mem_def.1 hc]
    rfl
  rw [ht] at hhead
  simpa [hhead] using hfirst

theorem getLast?_trimBlank (cs : List Char) :
    ∀ c ∈ (trimBlank cs).getLast?, isBlank c = false := by
  intro c hc
  obtain ⟨hne, rfl⟩ := List.mem_getLast?_eq_getLast hc
  simpa [trimBlank_eq_rdropWhile] using List.rdropWhile_last_not isBlank _ hne

theorem mem_of_mem_trimBlank {c : Char} {cs : List Char} (h : c ∈ trimBlank cs) : c ∈ cs :=
  (List.dropWhile_sublist _).subset ((List.rdropWhile_prefix _ _).subset h)

/-! ### Where a line stands -/

/-- `piece` is a whole line of the text `pre ++ piece ++ post`: it starts the text or follows a
line feed, holds no line feed, and is followed by a line feed or ends the text without being
empty. -/
structure LineAt (pre piece post : List Char) : Prop where
  /-- The line starts the text or follows a line feed. -/
  start : ∀ c ∈ pre.getLast?, c = '\n'
  /-- The line holds no line feed. -/
  noNewline : '\n' ∉ piece
  /-- A line feed ends the line, or the line ends the text and is not empty. -/
  stop : post.head? = some '\n' ∨ post = [] ∧ piece ≠ []

/-- A text that ends with a line feed is read as its own lines, then those of what follows. -/
theorem eq_nil_of_ended {cs : List Char} (h : ∀ c ∈ cs.getLast?, c = '\n') (hcs : '\n' ∉ cs) :
    cs = [] := by
  cases cs using List.reverseRecOn with
  | nil => rfl
  | append_singleton xs c _ =>
    simp only [List.getLast?_append, List.getLast?_singleton, Option.some_or, Option.mem_def,
      Option.some.injEq, forall_eq'] at h
    simp [h] at hcs

theorem ended_of_append_newline {xs more : List Char} (h : ∀ c ∈ (xs ++ '\n' :: more).getLast?, c = '\n') :
    ∀ c ∈ more.getLast?, c = '\n' := by
  intro c hc
  apply h
  simp [List.getLast?_append, List.getLast?_cons, Option.mem_def.1 hc]

/-- A text that ends with a line feed is read as its own lines, then those of what follows. -/
theorem lines_append_of_ended {pre : List Char} (h : ∀ c ∈ pre.getLast?, c = '\n')
    (rest : List Char) : lines (pre ++ rest) = lines pre ++ lines rest := by
  induction pre using lines_induction with
  | last cs hcs => simp [eq_nil_of_ended h hcs, lines]
  | line xs more hxs ih =>
    rw [List.append_assoc, List.cons_append, lines_append_newline hxs, lines_append_newline hxs,
      ih (ended_of_append_newline h), List.cons_append]

/-- A text that ends with a line feed has one line for each line feed. -/
theorem length_lines_of_ended {pre : List Char} (h : ∀ c ∈ pre.getLast?, c = '\n') :
    (lines pre).length = pre.count '\n' := by
  induction pre using lines_induction with
  | last cs hcs => simp [eq_nil_of_ended h hcs, lines]
  | line xs more hxs ih =>
    rw [lines_append_newline hxs, List.length_cons, ih (ended_of_append_newline h),
      List.count_append, List.count_cons_self, List.count_eq_zero_of_not_mem hxs]
    omega

/-- The first line read from a whole line onwards is that line, less a carriage return that
trimming drops anyway. -/
theorem lines_of_lineAt {pre piece post : List Char} (h : LineAt pre piece post) :
    ∃ l rest, lines (piece ++ post) = l :: rest ∧ trimBlank l = trimBlank piece := by
  rcases h.stop with hnl | ⟨rfl, hne⟩
  · obtain ⟨more, rfl⟩ : ∃ more, post = '\n' :: more := by
      cases post with
      | nil => simp at hnl
      | cons c more => simp only [List.head?_cons, Option.some.injEq] at hnl; exact ⟨more, by rw [hnl]⟩
    exact ⟨_, _, lines_append_newline h.noNewline more, trimBlank_dropReturn piece⟩
  · refine ⟨piece, [], ?_, rfl⟩
    rw [List.append_nil, lines_of_newline_not_mem h.noNewline]
    simp [hne]

/-- Every line of a text stands somewhere in it: after the lines before it, as a whole line. -/
theorem exists_lineAt_of_lines_eq {cs l : List Char} {good rest : List (List Char)}
    (h : lines cs = good ++ l :: rest) :
    ∃ pre piece post, cs = pre ++ piece ++ post ∧ LineAt pre piece post ∧ lines pre = good ∧
      trimBlank piece = trimBlank l := by
  induction cs using lines_induction generalizing good with
  | last cs hcs =>
    rw [lines_of_newline_not_mem hcs] at h
    split at h
    · simp at h
    · rename_i hne
      -- the text is one line, so it is the line sought
      obtain ⟨rfl, rfl, rfl⟩ : good = [] ∧ l = cs ∧ rest = [] := by
        cases good with
        | nil => simp_all
        | cons g good => simp at h
      exact ⟨[], l, [], by simp, ⟨by simp, hcs, .inr ⟨rfl, by simpa using hne⟩⟩, rfl, rfl⟩
  | line xs more hxs ih =>
    rw [lines_append_newline hxs] at h
    cases good with
    | nil =>
      obtain ⟨rfl, rfl⟩ := List.cons.inj h
      exact ⟨[], xs, '\n' :: more, by simp, ⟨by simp, hxs, .inl rfl⟩, rfl,
        (trimBlank_dropReturn xs).symm⟩
    | cons g good =>
      obtain ⟨rfl, hmore⟩ := List.cons.inj h
      -- the line sought lies in the text after the first line feed
      obtain ⟨pre, piece, post, rfl, hat, hpre, htrim⟩ := ih hmore
      refine ⟨xs ++ '\n' :: pre, piece, post, by simp, ⟨?_, hat.noNewline, hat.stop⟩, ?_, htrim⟩
      · -- the line feed ends the text before the line, or what follows it does
        intro c hc
        rw [List.getLast?_append, List.getLast?_cons, Option.some_or, Option.mem_def,
          Option.some.injEq] at hc
        cases hlast : pre.getLast? with
        | none => simpa [hlast] using hc.symm
        | some d =>
          rw [hlast, Option.getD_some] at hc
          exact hc ▸ hat.start d (by simp [hlast])
      · rw [lines_append_newline hxs, hpre]

end Text

end Scrobbler
