import Scrobbler.Proofs.Handle
import Scrobbler.Hook

/-!
# The order of the hook's steps

One run of the hook loads the configuration, reads the track, and then plans or handles the
song. This module proves, for every input and every service, that the first step that fails
decides the answer, and that the service configuration is looked at only when something is to
be sent: a dry run and a song that deserves nothing give the same answer whatever the
configuration names as service and credentials, and whatever the network does.

Each step of `runHook` has its lemma below; the main theorem only chains them. Planning fails
when the song's start time leaves 64 bits; the hook then fails with that, before any session is
opened, also on a dry run (`runHook_dryRun_overflow`).

## Main statements

* `runHook_resolution_order`: what the hook answers at each step, and that a dry run or an
  empty plan answers the same for every configuration with the same policy and parse mode.
* `runHook_dryRun_overflow`: a dry run whose start time overflows fails.
-/

namespace Scrobbler

/-! ### Steps of a run -/

theorem HookInput.config_of_parse_error {i : HookInput} {text : String} {e : Json.Error}
    (hf : i.configFile = .text text) (hp : Config.parse text = .error e) :
    i.config = .error (.loadConfig ["Failed parsing config at " ++ i.configPath, e.message]) := by
  simp [HookInput.config, loadConfig, hf, hp]

theorem Config.parseMode_eq {c c' : Config} (h : c'.skipMalformedLines = c.skipMalformedLines) :
    c'.parseMode = c.parseMode := by
  simp [Config.parseMode, h]

section RunHook

variable {σ : Type} (connector : Config → Connector σ) {i : HookInput} (s : σ) {c : Config}
  {track : Track}

theorem runHook_of_config_error {e : HookError} (h : i.config = .error e) :
    runHook connector i s = (s, .error e) := by
  simp [runHook, h]

theorem runHook_of_readTrack_error {e : MetadataError} (hc : i.config = .ok c)
    (ht : readTrack i.metadata c.parseMode = .error e) :
    runHook connector i s = (s, .error (.metadata e)) := by
  simp [runHook, hc, ht]

theorem runHook_of_plan_error {e : ClockOverflow} (hc : i.config = .ok c)
    (ht : readTrack i.metadata c.parseMode = .ok track)
    (hp : plan (Event.ofName i.event) track c.policy i.nowMs = .error e) :
    runHook connector i s = (s, .error (.handle (.clock e))) := by
  cases hd : i.dryRun
  · simp [runHook, hc, ht, hd, handle_of_plan_error _ _ hp]
  · simp [runHook, hc, ht, hd, hp]

/-- A dry run, or a plan with nothing to send, answers with the plan and leaves the service
alone. -/
theorem runHook_of_quiet {o : Outcome} (hc : i.config = .ok c)
    (ht : readTrack i.metadata c.parseMode = .ok track)
    (hp : plan (Event.ofName i.event) track c.policy i.nowMs = .ok o)
    (hq : i.dryRun = true ∨ o.isNoop = true) : runHook connector i s = (s, .ok o) := by
  cases hd : i.dryRun
  · have hn : o.isNoop = true := by simpa [hd] using hq
    simp [runHook, hc, ht, hd, handle_of_isNoop _ _ hp hn]
  · simp [runHook, hc, ht, hd, hp]

theorem runHook_of_connect_error {o : Outcome} {s' : σ} {e : HandleError} (hc : i.config = .ok c)
    (ht : readTrack i.metadata c.parseMode = .ok track) (hd : i.dryRun = false)
    (hp : plan (Event.ofName i.event) track c.policy i.nowMs = .ok o) (hn : o.isNoop = false)
    (hconn : (connector c).connect s = (s', some e)) :
    runHook connector i s = (s', .error (.handle e)) := by
  simp [runHook, hc, ht, hd, handle_of_connect_error _ _ hp hn hconn]

end RunHook

/-! ### The service a configuration names -/

theorem Config.resolveService_of_unsupported {c : Config} (h₁ : c.service ≠ "lastfm")
    (h₂ : c.service ≠ "librefm") :
    c.resolveService = .error ("Unsupported service: " ++ c.service) := by
  simp [Config.resolveService, Service.ofName, h₁, h₂]

/-- Opening a session with a service the configuration cannot name sends nothing. -/
theorem Config.connector_connect_of_resolveService_error (t : Transport) {c : Config} {e : String}
    (h : c.resolveService = .error e) (s : Option Client) :
    (c.connector t).connect s = (s, some (.config e)) := by
  simp [Config.connector, h]

/-! ### The whole run -/

/-- The hook resolves its inputs in a fixed order, and looks at the service configuration
only when something must be sent. A configuration file that does not parse fails the run
whatever the event and the metadata. Otherwise a metadata block that gives no track fails it,
for every event, before any session. Otherwise a start time that overflows fails it, before any
session, dry run or not. Otherwise a dry run, or a plan with nothing to send, succeeds with the
plan and answers the same for every configuration with the same policy and parse mode and for
every network. Otherwise, with something to send, a service that is not `lastfm` or `librefm`
fails the run as a configuration error, before anything is sent. -/
theorem runHook_resolution_order (t : Transport) (i : HookInput) (s : Option Client) :
    -- a configuration file that does not parse
    (∀ text e, i.configFile = .text text → Config.parse text = .error e →
      runHook (Config.connector t) i s =
        (s, .error (.loadConfig ["Failed parsing config at " ++ i.configPath, e.message]))) ∧
    ∀ c, i.config = .ok c →
      -- a metadata block that gives no track
      (∀ e, readTrack i.metadata c.parseMode = .error e →
        runHook (Config.connector t) i s = (s, .error (.metadata e))) ∧
      ∀ track, readTrack i.metadata c.parseMode = .ok track →
        -- a start time that overflows
        (∀ e, plan (Event.ofName i.event) track c.policy i.nowMs = .error e →
          runHook (Config.connector t) i s = (s, .error (.handle (.clock e)))) ∧
        ∀ o, plan (Event.ofName i.event) track c.policy i.nowMs = .ok o →
          -- a dry run, or nothing to send
          ((i.dryRun = true ∨ o.isNoop = true) →
            runHook (Config.connector t) i s = (s, .ok o) ∧
            ∀ (t' : Transport) (i' : HookInput) (c' : Config), i'.config = .ok c' →
              c'.policy = c.policy → c'.skipMalformedLines = c.skipMalformedLines →
              i'.event = i.event → i'.metadata = i.metadata → i'.nowMs = i.nowMs →
              i'.dryRun = i.dryRun →
              runHook (Config.connector t') i' s = runHook (Config.connector t) i s) ∧
          -- something to send, to a service that cannot be named
          (i.dryRun = false → o.isNoop = false → c.service ≠ "lastfm" → c.service ≠ "librefm" →
            runHook (Config.connector t) i s =
              (s, .error (.handle (.config ("Unsupported service: " ++ c.service))))) := by
  refine ⟨fun text e hf hp => runHook_of_config_error _ _ (HookInput.config_of_parse_error hf hp),
    fun c hc => ⟨fun e ht => runHook_of_readTrack_error _ _ hc ht, fun track ht => ⟨fun e hp =>
      runHook_of_plan_error _ _ hc ht hp, fun o hp => ⟨fun hq => ?_, fun hd hn h₁ h₂ => ?_⟩⟩⟩⟩
  · have hrun := runHook_of_quiet (Config.connector t) s hc ht hp hq
    refine ⟨hrun, fun t' i' c' hc' hpol hskip hev hmeta hnow hdry => ?_⟩
    -- the second run reads the same track and makes the same plan
    have ht' : readTrack i'.metadata c'.parseMode = .ok track := by
      rw [hmeta, Config.parseMode_eq hskip, ht]
    have hp' : plan (Event.ofName i'.event) track c'.policy i'.nowMs = .ok o := by
      rw [hev, hpol, hnow, hp]
    rw [hrun, runHook_of_quiet (Config.connector t') s hc' ht' hp' (hdry ▸ hq)]
  · exact runHook_of_connect_error _ _ hc ht hd hp hn
      (Config.connector_connect_of_resolveService_error t
        (Config.resolveService_of_unsupported h₁ h₂) s)

/-- A dry run of a finished song played for longer than the clock allows, with no configuration
file: the start time overflows, and the run fails instead of succeeding. -/
theorem runHook_dryRun_overflow :
    runHook (Config.connector offline)
      ⟨"songfinish", "artist=Foo\ntitle=Bar\nsongDuration=300000\nsongPlayed=9223372036854775807\nrating=0\n",
        .absent, "<config>", fun _ => none, -2, true⟩ none =
      (none, .error (.handle (.clock .subtraction))) := by
  rfl

end Scrobbler
