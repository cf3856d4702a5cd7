import Scrobbler.Handler

/-!
# The handler follows its plan

`handle` is the live counterpart of `plan`: what it sends to the tracking service is exactly
what planning decides, in the order `Outcome.calls` lists it. This module proves that for every
event, track, policy and clock, and for every scripted service (`Script`), whatever each of its
steps answers.

The lemmas about `handle` itself hold for any `Connector`: a failed plan and an empty plan leave
the service alone, and otherwise the session is opened once before anything is sent. The
lemmas about `Script` say what a scripted service records; `Connector.sendAll` on it records the
calls up to and including the first that fails (`Script.sendAll_connector`).

## Main statements

* `Outcome.calls_eq_nil_iff`: the plan's calls are empty exactly when the plan is a no-op.
* `handle_script_follows_plan`: against a scripted service, `handle` opens a session lazily and
  at most once, and sends the prefix of the planned calls that ends at the first failure.
-/

namespace Scrobbler

/-! ### The calls of a plan -/

theorem Outcome.calls_eq_nil_iff (o : Outcome) (t : TrackRef) : o.calls t = [] ↔ o.isNoop = true := by
  rcases o with ⟨_ | s, _ | a⟩ <;> simp [Outcome.calls, Outcome.isNoop]

/-! ### `handle` against any service -/

section Handle

variable {σ : Type} (c : Connector σ) {event : Event} {track : Track} {policy : Policy}
  {nowMs : Int} (s : σ)

theorem handle_of_plan_error {e : ClockOverflow} (h : plan event track policy nowMs = .error e) :
    handle c event track policy nowMs s = (s, .error (.clock e)) := by
  simp [handle, h]

theorem handle_of_isNoop {o : Outcome} (h : plan event track policy nowMs = .ok o)
    (hn : o.isNoop = true) : handle c event track policy nowMs s = (s, .ok o) := by
  simp [handle, h, hn]

theorem handle_of_connect_error {o : Outcome} {s' : σ} {e : HandleError}
    (h : plan event track policy nowMs = .ok o) (hn : o.isNoop = false)
    (hc : c.connect s = (s', some e)) : handle c event track policy nowMs s = (s', .error e) := by
  simp [handle, h, hn, hc]

theorem handle_of_sendAll_ok {o : Outcome} {s' s'' : σ}
    (h : plan event track policy nowMs = .ok o) (hn : o.isNoop = false)
    (hc : c.connect s = (s', none)) (hs : c.sendAll (o.calls track.ref) s' = (s'', none)) :
    handle c event track policy nowMs s = (s'', .ok o) := by
  simp [handle, h, hn, hc, hs]

theorem handle_of_sendAll_error {o : Outcome} {s' s'' : σ} {chain : List String}
    (h : plan event track policy nowMs = .ok o) (hn : o.isNoop = false)
    (hc : c.connect s = (s', none)) (hs : c.sendAll (o.calls track.ref) s' = (s'', some chain)) :
    handle c event track policy nowMs s = (s'', .error (.remote chain)) := by
  simp [handle, h, hn, hc, hs]

end Handle

/-! ### What a scripted service records -/

namespace Script

variable {α : Type} (sc : Script) (opening : Except HandleError α) (log : SessionLog α)

@[simp] theorem connector_send (call : Call) :
    (sc.connector opening).send call log =
      ({ log with seen := log.seen ++ [.call call] }, (sc.failureOf call).map fun m => [m]) := rfl

theorem connector_connect_error {e : HandleError} (h : opening = .error e) :
    (sc.connector opening).connect log = ({ log with connects := log.connects + 1 }, some e) := by
  subst h
  rfl

theorem connector_connect_ok {info : α} (h : opening = .ok info) :
    (sc.connector opening).connect log =
      (⟨log.connects + 1, log.seen ++ [.connect info]⟩, sc.failConnect.map fun m => .remote [m]) := by
  subst h
  rfl

/-- Sent in order to a scripted service, a list of calls reaches it up to and including the
first call that fails; the answer is that call's message, or nothing when none fails. -/
theorem sendAll_connector (calls : List Call) :
    ∃ pre rest, calls = pre ++ rest ∧ (∀ c ∈ pre, sc.failureOf c = none) ∧
      ((rest = [] ∧
          (sc.connector opening).sendAll calls log = ({ log with seen := log.seen ++ pre.map .call }, none)) ∨
        ∃ f post m, rest = f :: post ∧ sc.failureOf f = some m ∧
          (sc.connector opening).sendAll calls log =
            ({ log with seen := log.seen ++ (pre ++ [f]).map .call }, some [m])) := by
  induction calls generalizing log with
  | nil => exact ⟨[], [], rfl, by simp, .inl ⟨rfl, by simp [Connector.sendAll]⟩⟩
  | cons call calls ih =>
    cases hf : sc.failureOf call with
    | some m =>
      exact ⟨[], call :: calls, rfl, by simp, .inr ⟨call, calls, m, rfl, hf, by simp [Connector.sendAll, hf]⟩⟩
    | none =>
      -- the call is recorded and succeeds: the rest is sent from the extended log
      have hstep : (sc.connector opening).sendAll (call :: calls) log =
          (sc.connector opening).sendAll calls { log with seen := log.seen ++ [.call call] } := by
        simp [Connector.sendAll, hf]
      obtain ⟨pre, rest, rfl, hpre, hend⟩ := ih { log with seen := log.seen ++ [.call call] }
      refine ⟨call :: pre, rest, rfl, ?_, ?_⟩
      · simpa [hf] using hpre
      · rw [hstep]
        rcases hend with ⟨rfl, hrun⟩ | ⟨f, post, m, rfl, hfm, hrun⟩
        · exact .inl ⟨rfl, by simpa using hrun⟩
        · exact .inr ⟨f, post, m, rfl, hfm, by simpa using hrun⟩

end Script

/-- The log of a scripted service after one opened session and the calls `sent`. -/
def SessionLog.afterSession {α : Type} (log : SessionLog α) (info : α) (sent : List Call) :
    SessionLog α :=
  ⟨log.connects + 1, log.seen ++ .connect info :: sent.map .call⟩

/-- The handler does exactly what planning says, in order, against a scripted service whose
opening and calls each succeed or fail as scripted. A plan that fails (the start time
overflows) and an empty plan leave the service untouched. Otherwise the session is asked for
exactly once, before any call; if opening fails, that is the answer and no call is sent; else
the planned calls are sent up to and including the first that fails, whose message is the
answer, and the plan's outcome is the answer when none fails. -/
theorem handle_script_follows_plan {α : Type} (sc : Script) (opening : Except HandleError α)
    (log : SessionLog α) (event : Event) (track : Track) (policy : Policy) (nowMs : Int) :
    (∀ e, plan event track policy nowMs = .error e →
      handle (sc.connector opening) event track policy nowMs log = (log, .error (.clock e))) ∧
    ∀ o, plan event track policy nowMs = .ok o →
      (o.calls track.ref = [] →
        handle (sc.connector opening) event track policy nowMs log = (log, .ok o)) ∧
      (o.calls track.ref ≠ [] →
        (∀ e, opening = .error e →
          handle (sc.connector opening) event track policy nowMs log =
            ({ log with connects := log.connects + 1 }, .error e)) ∧
        ∀ info, opening = .ok info →
          (∀ m, sc.failConnect = some m →
            handle (sc.connector opening) event track policy nowMs log =
              (log.afterSession info [], .error (.remote [m]))) ∧
          (sc.failConnect = none →
            ∃ pre rest, o.calls track.ref = pre ++ rest ∧ (∀ c ∈ pre, sc.failureOf c = none) ∧
              ((rest = [] ∧
                  handle (sc.connector opening) event track policy nowMs log =
                    (log.afterSession info pre, .ok o)) ∨
                ∃ f post m, rest = f :: post ∧ sc.failureOf f = some m ∧
                  handle (sc.connector opening) event track policy nowMs log =
                    (log.afterSession info (pre ++ [f]), .error (.remote [m]))))) := by
  refine ⟨fun e he => handle_of_plan_error _ _ he, fun o ho => ⟨fun hnil => ?_, fun hne => ?_⟩⟩
  · exact handle_of_isNoop _ _ ho ((Outcome.calls_eq_nil_iff o _).1 hnil)
  have hn : o.isNoop = false := by simpa [Outcome.calls_eq_nil_iff] using hne
  refine ⟨fun e he => handle_of_connect_error _ _ ho hn (sc.connector_connect_error opening log he),
    fun info hinfo => ⟨fun m hm => ?_, fun hc => ?_⟩⟩
  · apply handle_of_connect_error _ _ ho hn
    simp [sc.connector_connect_ok opening log hinfo, hm, SessionLog.afterSession]
  -- the session opens: what follows is what the script records of the planned calls
  have hopen := sc.connector_connect_ok opening log hinfo
  rw [hc] at hopen
  obtain ⟨pre, rest, hcalls, hpre, hend⟩ :=
    sc.sendAll_connector opening ⟨log.connects + 1, log.seen ++ [.connect info]⟩ (o.calls track.ref)
  refine ⟨pre, rest, hcalls, hpre, ?_⟩
  rcases hend with ⟨rfl, hrun⟩ | ⟨f, post, m, rfl, hfm, hrun⟩
  · refine .inl ⟨rfl, handle_of_sendAll_ok _ _ ho hn hopen ?_⟩
    simpa [SessionLog.afterSession] using hrun
  · refine .inr ⟨f, post, m, rfl, hfm, handle_of_sendAll_error _ _ ho hn hopen ?_⟩
    simpa [SessionLog.afterSession] using hrun

end Scrobbler
