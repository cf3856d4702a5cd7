import Scrobbler.Config
import Scrobbler.Proofs.Failure

/-!
# Resolving the configuration

The environment overrides the configuration file one setting at a time: each of the six text
settings has its own variable, and a variable that is unset or empty leaves the file's value
(`Config.applyEnv_settings`). The table `Config.envSettings` names the variable of each optional
setting.

Credentials are made of four items checked in order: the API key, the API secret, the user
name and the password. The key and the secret go together: both configured, or both unset for
Libre.fm, which takes a placeholder pair. The password may be given as its digest, which wins
and is lower-cased, or in plain text, which is hashed. Resolution follows that order in three
stages (`Config.credentials_eq_stages`), and fails naming the first item missing
(`Config.credentials_eq_error_iff`).

## Main statements

* `Config.applyEnv_credentials`: the environment overrides the file setting by setting, and the
  credentials of the result resolve exactly when they are complete, carry the configured items,
  and otherwise name the first item missing.
-/

namespace Scrobbler

namespace Config

/-! ### The environment -/

/-- The optional text settings and the environment variable that overrides each. -/
def envSettings : List (String × (Config → Option String)) :=
  [("PIANOBAR_SCROBBLE_API_KEY", apiKey), ("PIANOBAR_SCROBBLE_API_SECRET", apiSecret),
    ("PIANOBAR_SCROBBLE_USERNAME", username), ("PIANOBAR_SCROBBLE_PASSWORD", password),
    ("PIANOBAR_SCROBBLE_PASSWORD_MD5", passwordMd5)]

theorem envValue_eq_filter (lookup : String → Option String) (name : String) :
    envValue lookup name = (lookup (envPrefix ++ name)).filter (fun v => !v.isEmpty) := by
  unfold envValue
  split
  · rename_i v hv
    by_cases h : v.isEmpty <;> simp [hv, h, Option.filter_some]
  · rename_i hv
    simp [hv]

/-- Each setting takes the environment's value when it is set and not empty, and keeps the
file's otherwise; the policy and the parse mode are the file's. -/
theorem applyEnv_settings (c : Config) (lookup : String → Option String) :
    (c.applyEnv lookup).service =
      ((lookup "PIANOBAR_SCROBBLE_SERVICE").filter (fun v => !v.isEmpty)).getD c.service ∧
    (∀ s ∈ envSettings,
      s.2 (c.applyEnv lookup) = ((lookup s.1).filter (fun v => !v.isEmpty)).or (s.2 c)) ∧
    (c.applyEnv lookup).policy = c.policy ∧
    (c.applyEnv lookup).skipMalformedLines = c.skipMalformedLines := by
  refine ⟨by simp [applyEnv, envValue_eq_filter, envPrefix], ?_, rfl, rfl⟩
  simp only [envSettings, List.mem_cons, List.not_mem_nil, or_false, forall_eq_or_imp,
    forall_eq, applyEnv, envValue_eq_filter, envPrefix, String.reduceAppend]
  -- each override is a match on the variable's value, which is what `Option.or` does
  refine ⟨?_, ?_, ?_, ?_, ?_⟩ <;> generalize Option.filter _ _ = o <;> cases o <;> rfl

/-! ### Credentials in three stages -/

/-- The key pair: the configured one, or the placeholder pair for Libre.fm when both are
unset. -/
def keyPair (c : Config) : Except String (String × String) :=
  match c.apiKey, c.apiSecret with
  | some k, some s => pure (k, s)
  | none, none =>
    if c.service = "librefm" then pure (placeholderKey, placeholderKey)
    else throw (missing "api_key")
  | none, some _ => throw (missing "api_key")
  | some _, none => throw (missing "api_secret")

/-- The user name. -/
def user (c : Config) : Except String String :=
  match c.username with
  | some u => pure u
  | none => throw (missing "username")

/-- The password's digest: the configured digest lower-cased, or the plain password hashed. -/
def passwordDigest (c : Config) : Except String String :=
  match c.passwordMd5, c.password with
  | some h, _ => pure (Text.toLower h)
  | none, some p => pure (hashPassword p)
  | none, none => throw (missing "password")

theorem credentials_eq_stages (c : Config) :
    c.credentials = (do
      let (k, s) ← c.keyPair
      let u ← c.user
      let p ← c.passwordDigest
      pure ⟨k, s, u, p⟩) := by
  -- the definition carries the rest of the resolution into each case of its matches, where the
  -- stages come one after the other; the two agree case by case
  obtain ⟨service, key, secret, username, password, md5, policy, skip⟩ := c
  cases key <;> cases secret
  case none.none =>
    -- the Libre.fm test stands before the rest there, after the key pair here
    by_cases hl : service = "librefm"
    · subst hl
      cases username <;> cases md5 <;> cases password <;> rfl
    · unfold credentials keyPair
      simp only [if_neg hl]
      cases username <;> cases md5 <;> cases password <;> rfl
  all_goals cases username <;> cases md5 <;> cases password <;> rfl

/-! ### Missing items -/

/-- Whether the key is missing: it is unset, and the secret is set or the service is not
Libre.fm. -/
def keyMissing (c : Config) : Bool :=
  c.apiKey.isNone && !(c.apiSecret.isNone && c.service == "librefm")

/-- Whether the secret is missing: it is unset, and the key is set or the service is not
Libre.fm. -/
def secretMissing (c : Config) : Bool :=
  c.apiSecret.isNone && !(c.apiKey.isNone && c.service == "librefm")

/-- The items credentials are made of, in the order they are checked, each with whether it is
missing. -/
def credentialItems (c : Config) : List (String × Bool) :=
  [("api_key", c.keyMissing), ("api_secret", c.secretMissing), ("username", c.username.isNone),
    ("password", c.passwordMd5.isNone && c.password.isNone)]

/-- The first item missing from the credentials, if any. -/
def firstMissing (c : Config) : Option String := (c.credentialItems.find? (·.2)).map (·.1)

/-! ### The stages -/

section Stages

variable {c : Config}

theorem keyPair_eq_ok_iff {k s : String} :
    c.keyPair = .ok (k, s) ↔ (c.apiKey = some k ∧ c.apiSecret = some s) ∨
      (c.apiKey = none ∧ c.apiSecret = none ∧ c.service = "librefm" ∧ k = placeholderKey ∧
        s = placeholderKey) := by
  unfold keyPair
  cases hk : c.apiKey <;> cases hs : c.apiSecret <;> by_cases hl : c.service = "librefm" <;>
    simp [hl, Except.pure_eq, Except.throw_eq, eq_comm]

theorem keyPair_eq_error_iff {e : String} :
    c.keyPair = .error e ↔ (c.keyMissing ∧ e = missing "api_key") ∨
      (c.keyMissing = false ∧ c.secretMissing ∧ e = missing "api_secret") := by
  unfold keyPair keyMissing secretMissing
  cases hk : c.apiKey <;> cases hs : c.apiSecret <;> by_cases hl : c.service = "librefm" <;>
    simp [hl, Except.pure_eq, Except.throw_eq, eq_comm (b := e)]

theorem keyPair_isOk_iff :
    (∃ k s, c.keyPair = .ok (k, s)) ↔ c.keyMissing = false ∧ c.secretMissing = false := by
  unfold keyPair keyMissing secretMissing
  cases hk : c.apiKey <;> cases hs : c.apiSecret <;> by_cases hl : c.service = "librefm" <;>
    simp [hl, Except.pure_eq, Except.throw_eq]

theorem user_eq_ok_iff {u : String} : c.user = .ok u ↔ c.username = some u := by
  unfold user
  cases c.username <;> simp [Except.pure_eq, Except.throw_eq]

theorem keyPair_isOk_iff_set :
    (∃ k s, c.keyPair = .ok (k, s)) ↔ (c.apiKey.isSome ∧ c.apiSecret.isSome) ∨
      (c.apiKey = none ∧ c.apiSecret = none ∧ c.service = "librefm") := by
  unfold keyPair
  cases hk : c.apiKey <;> cases hs : c.apiSecret <;> by_cases hl : c.service = "librefm" <;>
    simp [hl, Except.pure_eq, Except.throw_eq]

theorem user_isOk_iff : (∃ u, c.user = .ok u) ↔ c.username.isNone = false := by
  unfold user
  cases c.username <;> simp [Except.pure_eq, Except.throw_eq]

theorem user_eq_error_iff {e : String} :
    c.user = .error e ↔ c.username.isNone ∧ e = missing "username" := by
  unfold user
  cases c.username <;> simp [Except.pure_eq, Except.throw_eq, eq_comm]

theorem passwordDigest_eq_ok_iff {p : String} :
    c.passwordDigest = .ok p ↔ (∃ h, c.passwordMd5 = some h ∧ p = Text.toLower h) ∨
      (c.passwordMd5 = none ∧ ∃ pw, c.password = some pw ∧ p = hashPassword pw) := by
  unfold passwordDigest
  cases c.passwordMd5 <;> cases c.password <;> simp [Except.pure_eq, Except.throw_eq, eq_comm]

theorem passwordDigest_eq_error_iff {e : String} :
    c.passwordDigest = .error e ↔
      (c.passwordMd5.isNone && c.password.isNone) ∧ e = missing "password" := by
  unfold passwordDigest
  cases c.passwordMd5 <;> cases c.password <;> simp [Except.pure_eq, Except.throw_eq, eq_comm]

theorem passwordDigest_isOk_iff :
    (∃ p, c.passwordDigest = .ok p) ↔ c.passwordMd5.isSome ∨ c.password.isSome := by
  unfold passwordDigest
  cases c.passwordMd5 <;> cases c.password <;> simp [Except.pure_eq, Except.throw_eq]

end Stages

/-! ### What the credentials are -/

/-- Credentials resolve exactly when the key pair, the user name and the password do, and carry
them. -/
theorem credentials_eq_ok_iff (c : Config) (cred : Credentials) :
    c.credentials = .ok cred ↔
      ((c.apiKey = some cred.apiKey ∧ c.apiSecret = some cred.apiSecret) ∨
        (c.apiKey = none ∧ c.apiSecret = none ∧ c.service = "librefm" ∧
          cred.apiKey = placeholderKey ∧ cred.apiSecret = placeholderKey)) ∧
      c.username = some cred.username ∧
      ((∃ h, c.passwordMd5 = some h ∧ cred.passwordMd5 = Text.toLower h) ∨
        (c.passwordMd5 = none ∧ ∃ pw, c.password = some pw ∧ cred.passwordMd5 = hashPassword pw)) := by
  obtain ⟨k, s, u, p⟩ := cred
  simp only [credentials_eq_stages, Except.bind_eq_ok_iff, Except.pure_eq, Except.ok.injEq,
    Prod.exists, Credentials.mk.injEq]
  constructor
  · rintro ⟨k', s', hks, u', hu, p', hp, rfl, rfl, rfl, rfl⟩
    exact ⟨keyPair_eq_ok_iff.1 hks, user_eq_ok_iff.1 hu, passwordDigest_eq_ok_iff.1 hp⟩
  · rintro ⟨hks, hu, hp⟩
    exact ⟨k, s, keyPair_eq_ok_iff.2 hks, u, user_eq_ok_iff.2 hu, p,
      passwordDigest_eq_ok_iff.2 hp, rfl, rfl, rfl, rfl⟩

/-- Credentials fail naming the first item missing, in the order key, secret, user name,
password. -/
theorem credentials_eq_error_iff (c : Config) (e : String) :
    c.credentials = .error e ↔ ∃ item, c.firstMissing = some item ∧ e = missing item := by
  simp only [credentials_eq_stages, Except.bind_eq_error_iff, Except.pure_eq, reduceCtorEq,
    and_false, exists_false, or_false, Prod.exists, exists_and_right]
  simp only [keyPair_eq_error_iff, keyPair_isOk_iff, user_eq_error_iff, user_isOk_iff,
    passwordDigest_eq_error_iff, firstMissing, credentialItems, List.find?_cons, List.find?_nil]
  -- the stages stop at the first missing item, as the search does
  generalize c.keyMissing = key
  generalize c.secretMissing = secret
  generalize c.username.isNone = user
  generalize (c.passwordMd5.isNone && c.password.isNone) = password
  cases key <;> cases secret <;> cases user <;> cases password <;> simp

/-- Credentials resolve exactly when they are complete: a key and a secret, or neither for
Libre.fm, a user name, and a password in one form or the other. -/
theorem credentials_isOk_iff (c : Config) :
    (∃ cred, c.credentials = .ok cred) ↔
      ((c.apiKey.isSome ∧ c.apiSecret.isSome) ∨
        (c.apiKey = none ∧ c.apiSecret = none ∧ c.service = "librefm")) ∧
      c.username.isSome ∧ (c.passwordMd5.isSome ∨ c.password.isSome) := by
  have huser : c.username.isSome ↔ c.username.isNone = false := by
    cases c.username <;> simp
  simp only [credentials_eq_stages, Except.bind_eq_ok_iff, Except.pure_eq, Except.ok.injEq,
    Prod.exists, huser]
  constructor
  · rintro ⟨-, k, s, hks, u, hu, p, hp, -⟩
    exact ⟨keyPair_isOk_iff_set.1 ⟨k, s, hks⟩, user_isOk_iff.1 ⟨u, hu⟩,
      passwordDigest_isOk_iff.1 ⟨p, hp⟩⟩
  · rintro ⟨hks, hu, hp⟩
    obtain ⟨k, s, hks⟩ := keyPair_isOk_iff_set.2 hks
    obtain ⟨u, hu⟩ := user_isOk_iff.2 hu
    obtain ⟨p, hp⟩ := passwordDigest_isOk_iff.2 hp
    exact ⟨_, k, s, hks, u, hu, p, hp, rfl⟩

/-- The placeholder pair stands in exactly for the service the name `librefm` resolves to. -/
theorem service_eq_librefm_iff (c : Config) :
    c.service = "librefm" ↔ c.resolveService = .ok .libreFm := by
  unfold resolveService Service.ofName
  by_cases hl : c.service = "librefm"
  · simp [hl]
  · by_cases hf : c.service = "lastfm" <;> simp [hl, hf]

/-- The environment overrides the file setting by setting. The credentials of the result
resolve exactly when they are complete, and then carry the configured key and secret (or the
placeholder pair, for the service `librefm` names), the user name, and the password's digest:
the configured one lower-cased, else the plain password hashed. Otherwise they fail naming the
first item missing, in the order key, secret, user name, password. -/
theorem applyEnv_credentials (c : Config) (lookup : String → Option String) :
    let c' := c.applyEnv lookup
    (c'.service = ((lookup "PIANOBAR_SCROBBLE_SERVICE").filter (fun v => !v.isEmpty)).getD c.service ∧
      (∀ s ∈ envSettings, s.2 c' = ((lookup s.1).filter (fun v => !v.isEmpty)).or (s.2 c)) ∧
      c'.policy = c.policy ∧ c'.skipMalformedLines = c.skipMalformedLines) ∧
    ((∃ cred, c'.credentials = .ok cred) ↔
      ((c'.apiKey.isSome ∧ c'.apiSecret.isSome) ∨
        (c'.apiKey = none ∧ c'.apiSecret = none ∧ c'.service = "librefm")) ∧
      c'.username.isSome ∧ (c'.passwordMd5.isSome ∨ c'.password.isSome)) ∧
    (∀ cred, c'.credentials = .ok cred ↔
      ((c'.apiKey = some cred.apiKey ∧ c'.apiSecret = some cred.apiSecret) ∨
        (c'.apiKey = none ∧ c'.apiSecret = none ∧ c'.service = "librefm" ∧
          cred.apiKey = placeholderKey ∧ cred.apiSecret = placeholderKey)) ∧
      c'.username = some cred.username ∧
      ((∃ h, c'.passwordMd5 = some h ∧ cred.passwordMd5 = Text.toLower h) ∨
        (c'.passwordMd5 = none ∧ ∃ pw, c'.password = some pw ∧
          cred.passwordMd5 = hashPassword pw))) ∧
    (∀ e, c'.credentials = .error e ↔
      ∃ item, c'.firstMissing = some item ∧ e = item ++ " is not configured") ∧
    (c'.service = "librefm" ↔ c'.resolveService = .ok .libreFm) := by
  intro c'
  exact ⟨applyEnv_settings c lookup, credentials_isOk_iff c', credentials_eq_ok_iff c',
    credentials_eq_error_iff c', service_eq_librefm_iff c'⟩

end Config

end Scrobbler
