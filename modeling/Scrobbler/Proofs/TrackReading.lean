import Scrobbler.Player.Track
import Scrobbler.Proofs.Failure

/-!
# Reading the track from the metadata block

A track needs five fields, read in a fixed order: the artist and the title as text, then the
duration, the played time and the rating as integers. The album and the station are looked up
too, but a missing or empty one is simply left out.

The order is stated as a table, `Track.requiredFields`, and what can go wrong with one field as
`Track.fieldProblem`; reading a track fails with the problem of the first field in the table
that has one (`Track.ofMetadata_eq_error_iff`), and succeeds exactly when none has one, with the
fields' values (`Track.ofMetadata_eq_ok_iff`).

## Main statements

* `readTrack_first_problem`: reading the track of a block succeeds exactly when the block reads
  and the five fields do, with their values; otherwise the error is the block's, or else the
  problem of the first of the five fields in order.
-/

namespace Scrobbler

/-- An optional text that is present and not empty. -/
theorem nonEmpty_eq_filter (o : Option String) : nonEmpty o = o.filter (fun v => !v.isEmpty) := by
  cases o with
  | none => rfl
  | some v => by_cases h : v.isEmpty <;> simp [nonEmpty, h, Option.filter_some]

namespace Metadata

theorem require_eq_ok_iff {m : Metadata} {k v : String} : m.require k = .ok v ↔ m.get? k = some v := by
  cases h : m.get? k <;> simp [require, h]

theorem require_eq_error_iff {m : Metadata} {k : String} {e : MetadataError} :
    m.require k = .error e ↔ m.get? k = none ∧ e = .missingField k := by
  cases h : m.get? k <;> simp [require, h, eq_comm]

end Metadata

namespace Track

/-- How a field a track needs is read. -/
inductive FieldKind where
  /-- As text. -/
  | text
  /-- As a signed 64-bit integer. -/
  | integer
  deriving DecidableEq, Repr

/-- The fields a track needs, in the order they are read. -/
def requiredFields : List (String × FieldKind) :=
  [("artist", .text), ("title", .text), ("songDuration", .integer), ("songPlayed", .integer),
    ("rating", .integer)]

/-- What is wrong with a field a track needs, if anything. -/
def fieldProblem (m : Metadata) : String × FieldKind → Option MetadataError
  | (k, .text) => Except.problem (m.require k)
  | (k, .integer) => Except.problem (m.requireInt k)

/-- A field's problem names the field: it is missing, or it is not an integer. -/
theorem fieldProblem_names_field {m : Metadata} {f : String × FieldKind} {e : MetadataError}
    (h : fieldProblem m f = some e) :
    e = .missingField f.1 ∨ ∃ raw, f.2 = .integer ∧ e = .invalidFieldFormat f.1 raw := by
  obtain ⟨k, kind⟩ := f
  cases kind with
  | text =>
    simp only [fieldProblem, Except.problem_eq_some_iff, Metadata.require_eq_error_iff] at h
    exact .inl h.2
  | integer =>
    simp only [fieldProblem, Except.problem_eq_some_iff, Metadata.requireInt, Except.bind_eq_error_iff,
      Metadata.require_eq_error_iff] at h
    rcases h with ⟨-, rfl⟩ | ⟨raw, -, h⟩
    · exact .inl rfl
    · -- past the look-up, the only error is the field's value
      split at h <;> cases h
      exact .inr ⟨raw, rfl, rfl⟩

/-- Reading a track fails with the problem of the first needed field that has one. -/
theorem ofMetadata_eq_error_iff (m : Metadata) (e : MetadataError) :
    ofMetadata m = .error e ↔ requiredFields.findSome? (fieldProblem m) = some e := by
  simp only [ofMetadata, requiredFields, List.findSome?_cons, List.findSome?_nil, fieldProblem]
  simp only [Except.bind_eq_error_iff]
  cases m.require "artist" <;> cases m.require "title" <;> cases m.requireInt "songDuration" <;>
    cases m.requireInt "songPlayed" <;> cases m.requireInt "rating" <;>
    simp [Except.problem, Except.pure_ne_error]

/-- Reading a track succeeds exactly when the five needed fields read, and gives their values,
with the album and station when present and not empty. -/
theorem ofMetadata_eq_ok_iff (m : Metadata) (t : Track) :
    ofMetadata m = .ok t ↔ ∃ artist title duration played rating,
      m.get? "artist" = some artist ∧ m.get? "title" = some title ∧
      m.requireInt "songDuration" = .ok duration ∧ m.requireInt "songPlayed" = .ok played ∧
      m.requireInt "rating" = .ok rating ∧
      t = ⟨artist, title, (m.get? "album").filter (fun v => !v.isEmpty),
        (m.get? "stationName").filter (fun v => !v.isEmpty), duration, played,
        Rating.ofInt rating⟩ := by
  simp only [ofMetadata, Except.bind_eq_ok_iff, Except.pure_eq_ok_iff, Metadata.require_eq_ok_iff,
    nonEmpty_eq_filter]
  constructor
  · rintro ⟨a, ha, ti, hti, d, hd, p, hp, r, hr, rfl⟩
    exact ⟨a, ti, d, p, r, ha, hti, hd, hp, hr, rfl⟩
  · rintro ⟨a, ti, d, p, r, ha, hti, hd, hp, hr, rfl⟩
    exact ⟨a, ha, ti, hti, d, hd, p, hp, r, hr, rfl⟩

end Track

/-- Reading the track of a block succeeds exactly when the block reads and its five needed
fields do, and gives their values; otherwise it fails with the block's error, or with the
problem of the first needed field, in the order artist, title, duration, played time, rating,
that has one: a missing field, or an integer field that is not an integer. -/
theorem readTrack_first_problem (input : String) (mode : ParseMode) :
    (∀ t, readTrack input mode = .ok t ↔ ∃ m, Metadata.parse input mode = .ok m ∧
      ∃ artist title duration played rating,
        m.get? "artist" = some artist ∧ m.get? "title" = some title ∧
        m.requireInt "songDuration" = .ok duration ∧ m.requireInt "songPlayed" = .ok played ∧
        m.requireInt "rating" = .ok rating ∧
        t = ⟨artist, title, (m.get? "album").filter (fun v => !v.isEmpty),
          (m.get? "stationName").filter (fun v => !v.isEmpty), duration, played,
          Rating.ofInt rating⟩) ∧
    (∀ e, readTrack input mode = .error e ↔ Metadata.parse input mode = .error e ∨
      ∃ m, Metadata.parse input mode = .ok m ∧
        Track.requiredFields.findSome? (Track.fieldProblem m) = some e ∧
        (e = .missingField "artist" ∨ e = .missingField "title" ∨
          ∃ k ∈ ["songDuration", "songPlayed", "rating"],
            e = .missingField k ∨ ∃ raw, e = .invalidFieldFormat k raw)) := by
  refine ⟨fun t => ?_, fun e => ?_⟩
  · simp only [readTrack, Except.bind_eq_ok_iff, Track.ofMetadata_eq_ok_iff]
  · simp only [readTrack, Except.bind_eq_error_iff, Track.ofMetadata_eq_error_iff]
    refine or_congr Iff.rfl (exists_congr fun m => and_congr Iff.rfl ⟨fun h => ⟨h, ?_⟩, And.left⟩)
    -- the first problem is one of a needed field, and names it
    obtain ⟨f, hf, hp⟩ := List.exists_of_findSome?_eq_some h
    rcases Track.fieldProblem_names_field hp with hmiss | ⟨raw, hint, hinv⟩ <;>
      simp only [Track.requiredFields, List.mem_cons, List.not_mem_nil, or_false] at hf <;>
      rcases hf with rfl | rfl | rfl | rfl | rfl <;> simp_all

end Scrobbler
