import Scrobbler.Service.Answer
import Scrobbler.Proofs.IntegerFields
import Scrobbler.Proofs.Failure

/-!
# The verdict on a scrobble answer

A scrobble answer is first read as a record `ScrobbleAnswer`; an answer that cannot be read is
a parse failure, whatever it holds. A record read is judged on what it says: the listen was
taken when there is nothing to report on, when it was counted as accepted with nothing
ignored, or when it was ignored because the service has it already (code 91). Anything else is
a rejection naming the code and the text of the reason, or `unknown` and `Scrobble rejected`
when there is none (`ScrobbleAnswer.verdict_eq_ok_iff`).

The service writes the same answer in more than one way. A count is read from the raw value at
its place, an integer below `2^32` or text holding one, and both give the same count and leave
the text at the same place (`readCount_run_eq_ok_iff`). The reason's code is 91 whether it is
written as the text `"91"` or the integer `91` under `code`, or as a bare integer
(`IgnoredReason.codeAndText_of_code`).

## Main statements

* `checkScrobbleResult_classifies`: an answer fails as unreadable exactly when it does not read
  as a record; a record read is accepted exactly when it reports the listen taken, and is
  otherwise rejected with its code and text; counts and the code 91 are read alike in every
  encoding.
-/

namespace Scrobbler

namespace Json

namespace Reader

variable {α β : Type} {c c' : Cursor}

/-! ### Running readers -/

theorem run_bind_eq_ok_iff {x : Reader α} {f : α → Reader β} {b : β} :
    (x >>= f).run c = .ok b c' ↔ ∃ a c₁, x.run c = .ok a c₁ ∧ (f a).run c₁ = .ok b c' := by
  rw [EStateM.run_bind]
  cases x.run c <;> simp

theorem run_pure_eq_ok_iff {a b : α} : (pure a : Reader α).run c = .ok b c' ↔ a = b ∧ c = c' := by
  simp [EStateM.run, pure, EStateM.pure]

theorem run_reject_ne_ok {p : Problem} {a : α} : (reject p : Reader α).run c ≠ .ok a c' := by
  intro h
  cases h

/-- An untagged enumeration is read as a raw value, then decoded. -/
theorem readUntagged_run_eq_ok_iff {name : String} {decode : Value → Option α} {a : α} :
    (readUntagged name decode).run c = .ok a c' ↔
      ∃ v, readRaw.run c = .ok v c' ∧ decode v = some a := by
  unfold readUntagged
  rw [run_bind_eq_ok_iff]
  constructor
  · rintro ⟨v, c₁, hv, h⟩
    split at h
    · rename_i a' hd
      obtain ⟨rfl, rfl⟩ := run_pure_eq_ok_iff.1 h
      exact ⟨v, hv, hd⟩
    · exact absurd h run_reject_ne_ok
  · rintro ⟨v, hv, hd⟩
    refine ⟨v, c', hv, ?_⟩
    rw [hd]
    exact run_pure_eq_ok_iff.2 ⟨rfl, rfl⟩

end Reader

end Json

open Json Json.Reader

/-! ### Counts -/

/-- An unsigned type reads no negative value. -/
theorem Text.IntegerType.read_nonneg_of_unsigned (t : Text.IntegerType) (hsigned : t.signed = false)
    (hzero : t.fits 0) {s : List Char} {n : Int} (h : t.read s = .ok n) : 0 ≤ n := by
  -- every text that reads goes through the digits, without a sign
  have hdigits (ds : List Char) (hd : t.readDigits false 0 ds = .ok n) : 0 ≤ n := by
    obtain ⟨-, rfl, -⟩ :=
      (t.readDigits_eq_ok_iff false (by simpa [Text.withSign] using hzero) ds n).1 hd
    simp [Text.withSign]
  unfold Text.IntegerType.read at h
  split at h
  · cases h
  · cases h
  · cases h
  · exact hdigits _ h
  · simp only [hsigned, Bool.false_eq_true, if_false] at h
    exact hdigits _ h
  · exact hdigits _ h

theorem countOfValue_eq_inl_iff {v : Value} {s : String} :
    countOfValue v = some (.inl s) ↔ v = .string s := by
  cases v with
  | number n => cases n <;> simp [countOfValue]
  | _ => simp [countOfValue]

theorem countOfValue_eq_inr_iff {v : Value} {n : Nat} :
    countOfValue v = some (.inr n) ↔ v = .number (.nat n) ∧ n < Nat.pow 2 32 := by
  cases v with
  | number m => cases m <;> simp [countOfValue]; omega
  | _ => simp [countOfValue]

/-- A count is read from the raw value at its place: an integer below `2^32`, or text that
reads as a 32-bit unsigned integer; both leave the text where the raw value ends. -/
theorem readCount_run_eq_ok_iff {c c' : Cursor} {n : Nat} :
    readCount.run c = .ok n c' ↔ ∃ v, readRaw.run c = .ok v c' ∧
      ((v = .number (.nat n) ∧ n < Nat.pow 2 32) ∨
        ∃ s, v = .string s ∧ Text.uint32.read s.toList = .ok n) := by
  unfold readCount
  rw [run_bind_eq_ok_iff]
  constructor
  · rintro ⟨x, c₁, hx, h⟩
    obtain ⟨v, hv, hd⟩ := readUntagged_run_eq_ok_iff.1 hx
    refine ⟨v, ?_⟩
    cases x with
    | inl s =>
      dsimp only at h
      split at h
      · rename_i m hm
        obtain ⟨rfl, rfl⟩ := run_pure_eq_ok_iff.1 h
        have hm0 := Text.uint32.read_nonneg_of_unsigned rfl (by decide) hm
        refine ⟨hv, .inr ⟨s, countOfValue_eq_inl_iff.1 hd, ?_⟩⟩
        rwa [Int.toNat_of_nonneg hm0]
      · exact absurd h run_reject_ne_ok
    | inr m =>
      dsimp only at h
      obtain ⟨rfl, rfl⟩ := run_pure_eq_ok_iff.1 h
      exact ⟨hv, .inl (countOfValue_eq_inr_iff.1 hd)⟩
  · rintro ⟨v, hv, ⟨rfl, hn⟩ | ⟨s, rfl, hs⟩⟩
    · refine ⟨.inr n, c', readUntagged_run_eq_ok_iff.2 ⟨_, hv, ?_⟩, run_pure_eq_ok_iff.2 ⟨rfl, rfl⟩⟩
      exact countOfValue_eq_inr_iff.2 ⟨rfl, hn⟩
    · refine ⟨.inl s, c', readUntagged_run_eq_ok_iff.2 ⟨_, hv, countOfValue_eq_inl_iff.2 rfl⟩, ?_⟩
      simp only [hs]
      exact run_pure_eq_ok_iff.2 ⟨rfl, rfl⟩

/-! ### The code of a reason -/

/-- A member whose key names a field is decoded into that field, unless the field was
decoded before. -/
theorem Json.TreeShape.fromMembers_cons_eq_ok_iff {β : Type} {fields : List (TreeField β)}
    {f : TreeField β} {seen : List String} {k : String} {v : Value} {ms : List (String × Value)}
    {acc res : β} (hf : fields.find? (·.name == k) = some f) :
    TreeShape.fromMembers fields seen ((k, v) :: ms) acc = .ok res ↔
      k ∉ seen ∧ ∃ acc', f.decode acc v = .ok acc' ∧
        TreeShape.fromMembers fields (k :: seen) ms acc' = .ok res := by
  simp only [TreeShape.fromMembers, hf, List.contains_eq_mem, decide_eq_true_eq]
  by_cases hseen : k ∈ seen
  · simp [hseen]
  · simp [hseen, Except.bind_eq_ok_iff]

namespace IgnoredReason

/-- The code a member `code` of a detailed reason gives: none for `null`. -/
def codeOf : Value → Option Value
  | .null => none
  | v => some v.normalize

section Members

variable {seen : List String} {v : Value} {ms : List (String × Value)}
  {acc res : Option String × Option Value}

theorem fromMembers_text
    (h : TreeShape.fromMembers detailedShape.fields seen (("#text", v) :: ms) acc = .ok res) :
    "#text" ∉ seen ∧
      ∃ t, TreeShape.fromMembers detailedShape.fields ("#text" :: seen) ms (t, acc.2) = .ok res := by
  obtain ⟨hseen, acc', hacc, hrest⟩ := (TreeShape.fromMembers_cons_eq_ok_iff (by rfl)).1 h
  refine ⟨hseen, acc'.1, ?_⟩
  -- the text is all the member sets; the code stays
  have hcode : acc'.2 = acc.2 := by
    cases v <;> simp at hacc <;> rw [← hacc]
  rwa [← hcode]

theorem fromMembers_code
    (h : TreeShape.fromMembers detailedShape.fields seen (("code", v) :: ms) acc = .ok res) :
    "code" ∉ seen ∧
      TreeShape.fromMembers detailedShape.fields ("code" :: seen) ms (acc.1, codeOf v) = .ok res := by
  obtain ⟨hseen, acc', hacc, hrest⟩ := (TreeShape.fromMembers_cons_eq_ok_iff (by rfl)).1 h
  have hacc' : acc' = (acc.1, codeOf v) := by
    cases v <;> simp [codeOf] at hacc ⊢ <;> rw [← hacc]
  exact ⟨hseen, hacc' ▸ hrest⟩

theorem fromMembers_other {k : String} (htext : k ≠ "#text") (hcode : k ≠ "code") :
    TreeShape.fromMembers detailedShape.fields seen ((k, v) :: ms) acc =
      TreeShape.fromMembers detailedShape.fields seen ms acc := by
  simp [TreeShape.fromMembers, detailedShape, Ne.symm htext, Ne.symm hcode]

/-- Once the code is read, the rest of the members keep it, and may not give it again. -/
theorem fromMembers_snd_of_seen (hseen : "code" ∈ seen)
    (h : TreeShape.fromMembers detailedShape.fields seen ms acc = .ok res) :
    res.2 = acc.2 ∧ ∀ v, ("code", v) ∉ ms := by
  induction ms generalizing seen acc with
  | nil =>
    simp only [TreeShape.fromMembers, Except.ok.injEq] at h
    exact ⟨by rw [h], fun _ => List.not_mem_nil⟩
  | cons m ms ih =>
    obtain ⟨k, v⟩ := m
    by_cases htext : k = "#text"
    · subst htext
      obtain ⟨-, t, hrest⟩ := fromMembers_text h
      obtain ⟨hres, hnot⟩ := ih (List.mem_cons_of_mem _ hseen) hrest
      exact ⟨hres, fun v' hv' => hnot v' (by simpa using hv')⟩
    by_cases hcode : k = "code"
    · subst hcode
      exact absurd hseen (fromMembers_code h).1
    rw [fromMembers_other htext hcode] at h
    obtain ⟨hres, hnot⟩ := ih hseen h
    exact ⟨hres, fun v' hv' => hnot v' (by simpa [Ne.symm hcode] using hv')⟩

/-- A detailed reason read from members holds the code of its member `code`. -/
theorem fromMembers_snd_of_mem {cv : Value} (hmem : ("code", cv) ∈ ms) (hseen : "code" ∉ seen)
    (h : TreeShape.fromMembers detailedShape.fields seen ms acc = .ok res) :
    res.2 = codeOf cv := by
  induction ms generalizing seen acc with
  | nil => cases hmem
  | cons m ms ih =>
    obtain ⟨k, v⟩ := m
    by_cases htext : k = "#text"
    · subst htext
      obtain ⟨-, t, hrest⟩ := fromMembers_text h
      exact ih (by simpa using hmem) (by simpa using hseen) hrest
    by_cases hcode : k = "code"
    · subst hcode
      -- this member is the code: a second one would be a duplicate
      obtain ⟨-, hrest⟩ := fromMembers_code h
      obtain ⟨hres, hnot⟩ := fromMembers_snd_of_seen List.mem_cons_self hrest
      rcases List.mem_cons.1 hmem with heq | hrest'
      · cases heq
        exact hres
      · exact absurd hrest' (hnot cv)
    rw [fromMembers_other htext hcode] at h
    exact ih (by simpa [Ne.symm hcode] using hmem) hseen h

end Members

theorem ofValue_object {ms : List (String × Value)} {r : IgnoredReason}
    (h : ofValue (.object ms) = some r) : ∃ t c,
      TreeShape.fromMembers detailedShape.fields [] ms (none, none) = .ok (t, c) ∧
        r = .detailed t c := by
  unfold ofValue at h
  split at h
  · rename_i t c hd
    exact ⟨t, c, hd, (Option.some.inj h).symm⟩
  · cases h

/-- The code of a reason is 91 when it is written as the text `"91"` or the integer `91` under
`code`, or as a bare integer `91`. -/
theorem codeAndText_of_code {v : Value} {r : IgnoredReason} (hv : ofValue v = some r)
    (h : v = .number (.nat 91) ∨ ∃ ms, v = .object ms ∧
      (("code", .string "91") ∈ ms ∨ ("code", .number (.nat 91)) ∈ ms)) :
    r.codeAndText.1 = alreadyScrobbledCode := by
  rcases h with rfl | ⟨ms, rfl, hcode⟩
  · -- a bare integer is no object: it is read as a bare code
    have : ofValue (.number (.nat 91)) = some (.code 91) := rfl
    rw [this, Option.some.injEq] at hv
    subst hv
    rfl
  · obtain ⟨t, c, hd, rfl⟩ := ofValue_object hv
    rcases hcode with hmem | hmem
    · have hc : c = codeOf (.string "91") := fromMembers_snd_of_mem hmem List.not_mem_nil hd
      rw [hc]
      rfl
    · have hc : c = codeOf (.number (.nat 91)) := fromMembers_snd_of_mem hmem List.not_mem_nil hd
      rw [hc]
      rfl

end IgnoredReason

/-! ### The verdict -/

namespace ScrobbleAnswer

/-- The reason a listen was ignored, if the answer gives one. -/
def reason (a : ScrobbleAnswer) : Option IgnoredReason :=
  a.scrobbles.bind fun s => s.scrobble.bind (·.ignoredMessage)

/-- The code and text a rejection shows: the reason's, or `unknown` and `Scrobble rejected`
when the answer gives none. -/
def rejection (a : ScrobbleAnswer) : String × String :=
  (a.reason.map IgnoredReason.codeAndText).getD ("unknown", "Scrobble rejected")

/-- The service took the listen: the answer reports on no listen, or counts some accepted and
none ignored, or gives a reason whose code marks a listen the service has already. -/
def Accepts (a : ScrobbleAnswer) : Prop :=
  a.scrobbles = none ∨
    (∃ s ack, a.scrobbles = some s ∧ s.attr = some ack ∧ 0 < ack.accepted ∧ ack.ignored = 0) ∨
    ∃ r, a.reason = some r ∧ r.codeAndText.1 = alreadyScrobbledCode

/-- An answer is a success exactly when it reports the listen taken. -/
theorem verdict_eq_ok_iff (a : ScrobbleAnswer) : a.verdict = .ok () ↔ a.Accepts := by
  -- by the answer's shape: no report, or a report with or without counts and a reason
  obtain ⟨_ | ⟨_ | ack, _ | ⟨_ | r⟩⟩⟩ := a
  · simp [verdict, Accepts]
  all_goals
    simp only [verdict, Accepts, reason, alreadyScrobbledCode]
    split_ifs <;> simp_all

/-- An answer that does not report the listen taken is a rejection with its code and text. -/
theorem verdict_eq_error (a : ScrobbleAnswer) (h : ¬ a.Accepts) :
    a.verdict = .error ["Scrobble rejected (code " ++ a.rejection.1 ++ "): " ++ a.rejection.2] := by
  obtain ⟨_ | ⟨_ | ack, _ | ⟨_ | r⟩⟩⟩ := a
  · exact absurd (.inl rfl) h
  all_goals
    simp only [verdict, Accepts, reason, rejection, alreadyScrobbledCode] at h ⊢
    split_ifs <;> simp_all

end ScrobbleAnswer

/-! ### Checking an answer -/

theorem checkScrobbleResult_of_read_error {payload : String} {e : Error}
    (h : Reader.runOn ScrobbleAnswer.shape.read payload = .error e) :
    checkScrobbleResult payload = .error ["Failed parsing scrobble response", e.message] := by
  simp [checkScrobbleResult, h]

theorem checkScrobbleResult_of_read_ok {payload : String} {a : ScrobbleAnswer}
    (h : Reader.runOn ScrobbleAnswer.shape.read payload = .ok a) :
    checkScrobbleResult payload = a.verdict := by
  simp [checkScrobbleResult, h]

/-- The verdict on a record read never reads as a parse failure. -/
theorem verdict_ne_parse_failure (a : ScrobbleAnswer) (e : String) :
    a.verdict ≠ .error ["Failed parsing scrobble response", e] := by
  intro h
  by_cases ha : a.Accepts
  · rw [(ScrobbleAnswer.verdict_eq_ok_iff a).2 ha] at h
    cases h
  · rw [ScrobbleAnswer.verdict_eq_error a ha] at h
    simp at h

/-- How an answer to a scrobble is judged. It is a parse failure, with the reader's message,
exactly when it does not read as a record. A record read is a success exactly when it reports
the listen taken, and a rejection with its code and text otherwise. A count reads the same from
an integer and from text holding it, and the code of a reason is 91 in each of the ways the
service writes it. -/
theorem checkScrobbleResult_classifies (payload : String) :
    (∀ e, checkScrobbleResult payload = .error ["Failed parsing scrobble response", e] ↔
      ∃ err, Reader.runOn ScrobbleAnswer.shape.read payload = .error err ∧ err.message = e) ∧
    (∀ a, Reader.runOn ScrobbleAnswer.shape.read payload = .ok a →
      (checkScrobbleResult payload = .ok () ↔ a.Accepts) ∧
      (¬ a.Accepts → checkScrobbleResult payload =
        .error ["Scrobble rejected (code " ++ a.rejection.1 ++ "): " ++ a.rejection.2])) ∧
    (∀ c c' n, readCount.run c = .ok n c' ↔ ∃ v, readRaw.run c = .ok v c' ∧
      ((v = .number (.nat n) ∧ n < Nat.pow 2 32) ∨
        ∃ s, v = .string s ∧ Text.uint32.read s.toList = .ok n)) ∧
    (∀ v r, IgnoredReason.ofValue v = some r →
      (v = .number (.nat 91) ∨ ∃ ms, v = .object ms ∧
        (("code", .string "91") ∈ ms ∨ ("code", .number (.nat 91)) ∈ ms)) →
      r.codeAndText.1 = "91") := by
  refine ⟨fun e => ?_, fun a ha => ?_, fun _ _ _ => readCount_run_eq_ok_iff,
    fun _ _ hv hcode => IgnoredReason.codeAndText_of_code hv hcode⟩
  · -- a parse failure comes from the reader alone: a verdict is never one
    cases h : Reader.runOn ScrobbleAnswer.shape.read payload with
    | error err => simp [checkScrobbleResult_of_read_error h]
    | ok a => simp [checkScrobbleResult_of_read_ok h, verdict_ne_parse_failure]
  · rw [checkScrobbleResult_of_read_ok ha]
    exact ⟨a.verdict_eq_ok_iff, a.verdict_eq_error⟩

/-- The code 91 given as an integer marks the listen taken, with its counts given as text and as
an integer. -/
example : checkScrobbleResult
    ("\x7b\"scrobbles\":\x7b\"@attr\":\x7b\"accepted\":\"0\",\"ignored\":1\x7d," ++
      "\"scrobble\":\x7b\"ignoredMessage\":\x7b\"code\":91,\"#text\":\"Already scrobbled\"\x7d\x7d\x7d\x7d") =
      .ok () := by
  decide +kernel

/-- Bare text `"91"` is a reason without a code. -/
example : checkScrobbleResult
    ("\x7b\"scrobbles\":\x7b\"@attr\":\x7b\"accepted\":0,\"ignored\":1\x7d," ++
      "\"scrobble\":\x7b\"ignoredMessage\":\"91\"\x7d\x7d\x7d") =
      .error ["Scrobble rejected (code unknown): 91"] := by
  decide +kernel

end Scrobbler
