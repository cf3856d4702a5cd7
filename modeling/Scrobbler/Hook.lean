import Scrobbler.Service.Client

/-!
# The hook

One invocation of the hook, in order: the event is named; the configuration is loaded and the
environment laid over it; the track is read from the metadata block, leniently when the
configuration says so; and then the song is either only planned (a dry run) or handled
against the service. The first step that fails decides the answer. A dry run, and a song that
deserves nothing, never open a session, so the service configuration is then never looked at.
-/

namespace Scrobbler

/-- Why an invocation of the hook fails. -/
inductive HookError where
  /-- The configuration file could not be read or parsed. -/
  | loadConfig (chain : Chain)
  /-- The metadata block gives no track. -/
  | metadata (e : MetadataError)
  /-- Handling the song failed. -/
  | handle (e : HandleError)
  deriving DecidableEq, Repr

/-- The wording of a hook failure. -/
def HookError.message : HookError → String
  | .loadConfig chain => chain.message
  | .metadata e => e.message
  | .handle e => e.message

/-- What one invocation of the hook is given. -/
structure HookInput where
  /-- The event's name. -/
  event : String
  /-- The metadata block. -/
  metadata : String
  /-- What stands at the configuration's path. -/
  configFile : ConfigFile
  /-- The configuration's path, as messages show it. -/
  configPath : String
  /-- The environment. -/
  env : String → Option String
  /-- The clock, in milliseconds since the epoch. -/
  nowMs : Int
  /-- Whether only to plan. -/
  dryRun : Bool

/-- The configuration an invocation uses: the file's, with the environment laid over it. -/
def HookInput.config (i : HookInput) : Except HookError Config :=
  match loadConfig i.configPath i.configFile with
  | .error chain => .error (.loadConfig chain)
  | .ok c => .ok (c.applyEnv i.env)

/-- Runs the hook with the service `connector` gives for the configuration, from state `s`. -/
def runHook (connector : Config → Connector σ) (i : HookInput) (s : σ) :
    σ × Except HookError Outcome :=
  let event := Event.ofName i.event
  match i.config with
  | .error e => (s, .error e)
  | .ok c =>
    match readTrack i.metadata c.parseMode with
    | .error e => (s, .error (.metadata e))
    | .ok track =>
      if i.dryRun then
        match plan event track c.policy i.nowMs with
        | .error e => (s, .error (.handle (.clock e)))
        | .ok o => (s, .ok o)
      else
        match handle (connector c) event track c.policy i.nowMs s with
        | (s', .error e) => (s', .error (.handle e))
        | (s', .ok o) => (s', .ok o)

/-- How a scripted session is opened for a configuration: its service and credentials are
resolved first, and the opening carries them. -/
def Config.opening (c : Config) : Except HandleError (Service × Credentials) := do
  let service ← c.resolveService.mapError .config
  let cred ← c.credentials.mapError .config
  pure (service, cred)

end Scrobbler
