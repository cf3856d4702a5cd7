import Scrobbler.Proofs.Binary64Sign
import Scrobbler.Proofs.Hook

/-!
# When a song is scrobbled, and when its start time fits

A policy's thresholds are seconds, turned into milliseconds by a multiplication that saturates
at the bounds of 64 bits (`Policy.millis`). Inside those bounds the thresholds mean what they
say. Outside them the saturation breaks what the policy promises, that shorter songs are never
scrobbled and that a song played long enough is, whatever the percentage: a minimum duration of
more than `2^63 - 1` milliseconds reads as exactly `2^63 - 1`, so a song of that length passes
it though it is shorter, and a played time threshold of less than `-2^63` milliseconds reads as
`-2^63`, which the least played time does not exceed though it is above the threshold.

Under a policy whose thresholds are not negative and a clock not before 1970, a song that is
scrobbled has been played for some time: a time played at or below zero is at or below zero
percent of the song, in binary64 arithmetic too, and is not above the played time threshold.
Its start time then fits in 64 bits, so planning, handling and the whole hook never fail with
an overflow of the start time.

## Main statements

* `Policy.isEligible_saturated_bounds`: what eligibility says about the duration and the time
  played, with the saturation made explicit.
* `Policy.isEligible_saturated_thresholds`: the two thresholds that saturate.
* `plan_start_fits`: under a policy that is not negative and a clock after 1970, planning
  succeeds, a scrobbled song has been played, and the scrobble starts no later than the clock.
-/

namespace Scrobbler

open Binary64

/-! ### Thresholds in milliseconds -/

theorem int64_fits_iff (x : Int) :
    Text.int64.fits x = true ↔ -9223372036854775808 ≤ x ∧ x ≤ 9223372036854775807 :=
  ⟨of_decide_eq_true, decide_eq_true⟩

namespace Policy

theorem millis_eq (secs : Int) :
    millis secs = max Text.int64.least (min (secs * 1000) Text.int64.greatest) := rfl

theorem millis_nonneg {secs : Int} (h : 0 ≤ secs) : 0 ≤ millis secs := by
  simp only [millis_eq, Text.int64]
  omega

/-- The test behind eligibility: a song that lasts, then a share or a time played. -/
theorem isEligible_iff (p : Policy) (d pl : Int) :
    p.isEligible d pl = true ↔
      0 < d ∧ millis p.minDurationSecs ≤ d ∧
        (lt p.thresholdPercent (playedPercent d pl) = true ∨ millis p.playedEnoughSecs < pl) := by
  unfold isEligible
  split
  · rename_i h
    simp only [Bool.false_eq_true, false_iff, not_and, not_or]
    omega
  · rename_i h
    have hlasts : 0 < d ∧ millis p.minDurationSecs ≤ d := by omega
    simp only [Bool.or_eq_true, decide_eq_true_eq, hlasts, true_and]

/-! ### Eligible songs have been played -/

/-- A time played at or below zero is at or below zero percent of a song whose length is
positive and below `2^64` milliseconds. -/
theorem playedPercent_atMostZero {d pl : Int} (hd : 0 < d) (hd' : d < 2 ^ 64) (hpl : pl ≤ 0) :
    (playedPercent d pl).kind.AtMostZero := by
  obtain ⟨M, E, hM, hM0⟩ := kind_ofNat_of_pos (by decide : 0 < 100) (by decide)
  obtain ⟨N, F, hN, hN0⟩ := kind_ofInt_of_pos hd hd'
  exact atMostZero_div (atMostZero_mul hM hM0 (atMostZero_ofInt hpl)) hN hN0

/-- Under thresholds that are not below zero, an eligible song of 64-bit length has been
played for a positive time. -/
theorem playedMs_pos_of_isEligible {p : Policy} {d pl : Int}
    (hthr : lt p.thresholdPercent (ofNat 0) = false) (hpe : 0 ≤ p.playedEnoughSecs)
    (hd : Text.int64.fits d = true) (h : p.isEligible d pl = true) : 0 < pl := by
  obtain ⟨hd0, -, hplayed⟩ := (isEligible_iff p d pl).1 h
  by_contra hpl
  rw [not_lt] at hpl
  have hd64 : d < 2 ^ 64 := by
    have := (int64_fits_iff d).1 hd
    omega
  rcases hplayed with hlt | hlt
  · -- the share played is at or below zero, so not above a threshold that is not below zero
    rw [lt_eq_false_of_atMostZero hthr (playedPercent_atMostZero hd0 hd64 hpl)] at hlt
    exact Bool.false_ne_true hlt
  · have := millis_nonneg hpe
    omega

/-! ### What the integer thresholds mean -/

/-- The thresholds compared in exact integers, with their saturation. An eligible song lasts
a positive time, and at least the minimum duration unless that minimum is beyond 64 bits, where
it reads as the greatest 64-bit value. A song that lasts a positive time, at least the minimum
duration, and was played longer than the played time threshold is eligible whatever the
percentage, unless it was played for the least 64-bit value, which no saturated threshold is
below. -/
theorem isEligible_saturated_bounds (p : Policy) (d pl : Int) :
    (p.isEligible d pl = true →
      0 < d ∧ min (1000 * p.minDurationSecs) Text.int64.greatest ≤ d) ∧
    (0 < d → 1000 * p.minDurationSecs ≤ d → 1000 * p.playedEnoughSecs < pl →
      Text.int64.least < pl → p.isEligible d pl = true) := by
  constructor
  · intro h
    obtain ⟨hd, hmin, -⟩ := (isEligible_iff p d pl).1 h
    simp only [millis_eq, Text.int64] at hmin ⊢
    omega
  · intro hd hmin hpl hlo
    refine (isEligible_iff p d pl).2 ⟨hd, ?_, .inr ?_⟩ <;>
      simp only [millis_eq, Text.int64] at hlo ⊢ <;> omega

/-- Both thresholds saturate. A minimum duration of `9223372036854776` seconds is more than
the greatest 64-bit number of milliseconds, yet a song of that greatest length is eligible; and
a played time threshold of `-9223372036854776` seconds is below the least 64-bit number of
milliseconds, yet a song played for that least time is not. -/
theorem isEligible_saturated_thresholds :
    ({ default with minDurationSecs := 9223372036854776 } : Policy).isEligible
        9223372036854775807 9223372036854775807 = true ∧
      (9223372036854775807 : Int) < 1000 * 9223372036854776 ∧
    ({ default with playedEnoughSecs := -9223372036854776 } : Policy).isEligible
        300000 (-9223372036854775808) = false ∧
      (0 : Int) < 300000 ∧ 1000 * 30 ≤ (300000 : Int) ∧
      1000 * (-9223372036854776) < (-9223372036854775808 : Int) := by
  refine ⟨?_, by decide, ?_, by decide, by decide, by decide⟩
  · simp [isEligible, millis_eq, Text.int64, default]
  · obtain ⟨M, E, hM, -⟩ := kind_ofNat_of_pos (by decide : 0 < 50) (by decide)
    have hpct := lt_eq_false_of_atMostZero (lt_ofNat_zero_of_kind hM)
      (playedPercent_atMostZero (by decide : (0 : Int) < 300000) (by decide)
        (by decide : (-9223372036854775808 : Int) ≤ 0))
    simp [isEligible, millis_eq, Text.int64, default, hpct]

end Policy

/-! ### Planning -/

theorem startTimestamp_of_fits {nowMs playedMs : Int}
    (h : Text.int64.fits (nowMs - playedMs) = true) :
    startTimestamp nowMs playedMs = .ok ((nowMs - playedMs) / 1000) := by
  simp [startTimestamp, h]

section Plan

variable {event : Event} {track : Track} {policy : Policy} {nowMs : Int}

theorem plan_of_ne_songFinish (he : event ≠ .songFinish) :
    plan event track policy nowMs = .ok Outcome.none := by
  simp only [plan, he, ne_eq, not_false_eq_true, if_true]
  rfl

theorem plan_songFinish_of_not_isEligible
    (h : policy.isEligible track.durationMs track.playedMs = false) :
    plan .songFinish track policy nowMs = .ok ⟨none, track.rating.action?⟩ := by
  simp [plan, h]
  rfl

theorem plan_songFinish_of_isEligible
    (h : policy.isEligible track.durationMs track.playedMs = true)
    (hfits : Text.int64.fits (nowMs - track.playedMs) = true) :
    plan .songFinish track policy nowMs =
      .ok ⟨some ⟨track.artist, track.title, track.album, (nowMs - track.playedMs) / 1000,
        track.durationMs.tdiv 1000⟩, track.rating.action?⟩ := by
  simp [plan, h, Scrobble.ofTrack, startTimestamp_of_fits hfits]

/-- Opening a session with the configured service fails only for the configuration or the
service, never for the clock. -/
theorem Config.connector_connect_ne_clock (t : Transport) (cfg : Config) {s s' : Option Client}
    {e : HandleError} (h : (cfg.connector t).connect s = (s', some e)) (x : ClockOverflow) :
    e ≠ .clock x := by
  simp only [Config.connector] at h
  split at h
  · cases h; simp
  split at h
  · cases h; simp
  split at h
  · cases h; simp
  · cases h

/-- A plan that is made never makes handling fail with an overflow of the clock, against a
service whose opening does not. -/
theorem handle_ne_clock {o : Outcome} (h : plan event track policy nowMs = .ok o) {σ : Type}
    (c : Connector σ) (hc : ∀ s s' e, c.connect s = (s', some e) → ∀ x, e ≠ .clock x) (s : σ)
    (x : ClockOverflow) : (handle c event track policy nowMs s).2 ≠ .error (.clock x) := by
  cases hn : o.isNoop
  · -- something to send: the answer comes from opening the session or from sending
    rcases hconn : c.connect s with ⟨s', _ | e⟩
    · rcases hsend : c.sendAll (o.calls track.ref) s' with ⟨s'', _ | chain⟩
      · simp [handle_of_sendAll_ok c s h hn hconn hsend]
      · simp [handle_of_sendAll_error c s h hn hconn hsend]
    · rw [handle_of_connect_error c s h hn hconn]
      simpa using hc s s' e hconn x
  · simp [handle_of_isNoop c s h hn]

/-- A hook run whose plan is made never fails with an overflow of the clock, dry run or not. -/
theorem runHook_ne_clock (t : Transport) {i : HookInput} {cfg : Config} {o : Outcome}
    (hc : i.config = .ok cfg) (ht : readTrack i.metadata cfg.parseMode = .ok track)
    (hp : plan (Event.ofName i.event) track cfg.policy i.nowMs = .ok o) (s : Option Client)
    (x : ClockOverflow) : (runHook (fun c => c.connector t) i s).2 ≠ .error (.handle (.clock x)) := by
  cases hd : i.dryRun
  · have hh := handle_ne_clock hp (cfg.connector t)
      (fun _ _ _ h => Config.connector_connect_ne_clock t cfg h) s x
    simp only [runHook, hc, ht, hd, Bool.false_eq_true, if_false]
    rcases hres : handle (cfg.connector t) (Event.ofName i.event) track cfg.policy i.nowMs s with
      ⟨s', e | o'⟩
    · rw [hres] at hh
      simpa using hh
    · simp
  · simp [runHook_of_quiet (fun c => c.connector t) s hc ht hp (.inl hd)]

end Plan

/-- Planning cannot overflow under a sane policy and clock. For a clock not before 1970, a
track of 64-bit times and a policy whose percentage and played time thresholds are not below
zero, planning succeeds; a song that is eligible has been played for a positive time, its
start time fits in 64 bits, and its scrobble starts at that time in whole seconds, rounded
down, no later than the clock, and lasts its duration in whole seconds, rounded toward zero.
So handling the song against the configured service, and running the hook on it, never fail
with an overflow of the clock. -/
theorem plan_start_fits (event : Event) (track : Track) (policy : Policy) (nowMs : Int)
    (hnow : 0 ≤ nowMs) (hnow' : Text.int64.fits nowMs = true)
    (hd : Text.int64.fits track.durationMs = true) (hp : Text.int64.fits track.playedMs = true)
    (hthr : lt policy.thresholdPercent (ofNat 0) = false) (hpe : 0 ≤ policy.playedEnoughSecs) :
    ∃ o, plan event track policy nowMs = .ok o ∧
      (policy.isEligible track.durationMs track.playedMs = true →
        0 < track.playedMs ∧ Text.int64.fits (nowMs - track.playedMs) = true ∧
        (nowMs - track.playedMs) / 1000 ≤ nowMs / 1000 ∧
        (event = .songFinish → o.scrobbled = some ⟨track.artist, track.title, track.album,
          (nowMs - track.playedMs) / 1000, track.durationMs.tdiv 1000⟩)) ∧
      (∀ (t : Transport) (cfg : Config) (s : Option Client) (x : ClockOverflow),
        (handle (cfg.connector t) event track policy nowMs s).2 ≠ .error (.clock x)) ∧
      (∀ (t : Transport) (i : HookInput) (cfg : Config) (s : Option Client) (x : ClockOverflow),
        i.config = .ok cfg → cfg.policy = policy → readTrack i.metadata cfg.parseMode = .ok track →
        Event.ofName i.event = event → i.nowMs = nowMs →
        (runHook (fun c => c.connector t) i s).2 ≠ .error (.handle (.clock x))) := by
  -- an eligible song has been played, so its start lies between `-2^63` and the clock
  have hstart : policy.isEligible track.durationMs track.playedMs = true →
      0 < track.playedMs ∧ Text.int64.fits (nowMs - track.playedMs) = true := fun he => by
    have hpos := Policy.playedMs_pos_of_isEligible hthr hpe hd he
    have := (int64_fits_iff _).1 hnow'
    have := (int64_fits_iff _).1 hp
    exact ⟨hpos, (int64_fits_iff _).2 (by omega)⟩
  have hplan : ∃ o, plan event track policy nowMs = .ok o ∧
      (policy.isEligible track.durationMs track.playedMs = true → event = .songFinish →
        o.scrobbled = some ⟨track.artist, track.title, track.album,
          (nowMs - track.playedMs) / 1000, track.durationMs.tdiv 1000⟩) := by
    by_cases hev : event = .songFinish
    · subst hev
      cases hel : policy.isEligible track.durationMs track.playedMs
      · exact ⟨_, plan_songFinish_of_not_isEligible hel, fun h => absurd h (by simp)⟩
      · exact ⟨_, plan_songFinish_of_isEligible hel (hstart hel).2, fun _ _ => rfl⟩
    · exact ⟨_, plan_of_ne_songFinish hev, fun _ h => absurd h hev⟩
  obtain ⟨o, ho, hscrobbled⟩ := hplan
  refine ⟨o, ho, fun he => ⟨(hstart he).1, (hstart he).2, ?_, hscrobbled he⟩,
    fun t cfg s x => handle_ne_clock ho _ (fun _ _ _ h => Config.connector_connect_ne_clock t cfg h) s x,
    fun t i cfg s x hc hpol ht hev hclock => ?_⟩
  · have := (hstart he).1
    omega
  · subst hpol hev hclock
    exact runHook_ne_clock t hc ht ho s x

/-- A song of five minutes, played for three and a third, scrobbled under the default policy
at a clock in 2023. -/
theorem plan_start_fits_default :
    (0 : Int) ≤ 1700000000250 ∧ Text.int64.fits 1700000000250 = true ∧
      Text.int64.fits 300000 = true ∧ Text.int64.fits 200000 = true ∧
      lt Policy.default.thresholdPercent (ofNat 0) = false ∧
      (0 : Int) ≤ Policy.default.playedEnoughSecs ∧
      ∃ o, plan .songFinish ⟨"Artist", "Title", none, none, 300000, 200000, .love⟩ Policy.default
        1700000000250 = .ok o := by
  obtain ⟨M, E, hM, -⟩ := kind_ofNat_of_pos (by decide : 0 < 50) (by decide)
  have hthr : lt Policy.default.thresholdPercent (ofNat 0) = false := lt_ofNat_zero_of_kind hM
  obtain ⟨o, ho, -⟩ := plan_start_fits .songFinish
    ⟨"Artist", "Title", none, none, 300000, 200000, .love⟩ Policy.default 1700000000250
    (by decide) (by decide) (by decide) (by decide) hthr (by decide)
  exact ⟨by decide, by decide, by decide, by decide, hthr, by decide, o, ho⟩

end Scrobbler
