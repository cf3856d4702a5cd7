import Scrobbler.Policy
import Scrobbler.Service.Basic
import Scrobbler.Digest.Md5
import Scrobbler.Text.Lowercase
import Scrobbler.Player.Metadata

/-!
# Configuration

The configuration is read from a JSON file holding a record `Config`; every field has a
default, and a file that does not exist gives the defaults. Environment variables
`PIANOBAR_SCROBBLE_SERVICE`, `_API_KEY`, `_API_SECRET`, `_USERNAME`, `_PASSWORD` and
`_PASSWORD_MD5` then override the file field by field; an empty variable counts as unset.

Credentials resolve only when complete: an API key and secret (Libre.fm takes any pair, so
for it a placeholder stands in when both are unset), a user name, and a password, given
either as its MD5 digest, which wins and is lower-cased, or in plain text, then hashed.
-/

namespace Scrobbler

/-- The hook's configuration. -/
structure Config where
  /-- The name of the tracking service. -/
  service : String
  /-- The API key. -/
  apiKey : Option String
  /-- The API secret. -/
  apiSecret : Option String
  /-- The listener's user name. -/
  username : Option String
  /-- The plain password. -/
  password : Option String
  /-- The MD5 digest of the password, in hexadecimal; it wins over the plain password. -/
  passwordMd5 : Option String
  /-- When a song counts as listened to. -/
  policy : Policy
  /-- Whether malformed metadata lines are passed over. -/
  skipMalformedLines : Bool

/-- What the service needs to open a session. -/
structure Credentials where
  /-- The API key. -/
  apiKey : String
  /-- The API secret. -/
  apiSecret : String
  /-- The listener's user name. -/
  username : String
  /-- The MD5 digest of the password, lower-case hexadecimal. -/
  passwordMd5 : String
  deriving DecidableEq, Repr

/-- The MD5 digest of a password, lower-case hexadecimal. -/
def hashPassword (password : String) : String := Md5.hexDigest password

/-- The key and secret that stand in for Libre.fm, which accepts any pair. -/
def placeholderKey : String := "pianobar-scrobble"

/-- The prefix of the environment variables the configuration reads. -/
def envPrefix : String := "PIANOBAR_SCROBBLE_"

namespace Config

/-- Last.fm, no credentials, the default policy, strict metadata. -/
def default : Config := ⟨"lastfm", none, none, none, none, none, Policy.default, false⟩

/-- A field of the configuration that holds optional text. -/
def textField (name : String) (set : Config → Option String → Config) : Json.Field Config where
  name := name
  read c := do return set c (← Json.Reader.readOption Json.Reader.readString)

/-- How the configuration is read from JSON text. -/
def recordShape : Json.RecordShape Config where
  name := "Config"
  fields := [
    { name := "service", read := fun c => do return { c with service := ← Json.Reader.readString } },
    textField "api_key" fun c v => { c with apiKey := v },
    textField "api_secret" fun c v => { c with apiSecret := v },
    textField "username" fun c v => { c with username := v },
    textField "password" fun c v => { c with password := v },
    textField "password_md5" fun c v => { c with passwordMd5 := v },
    { name := "policy", read := fun c => do return { c with policy := ← Policy.recordShape.read } },
    { name := "skip_malformed_lines"
      read := fun c => do return { c with skipMalformedLines := ← Json.Reader.readBool } }]
  start := default

/-- Reads the configuration from JSON text. -/
def parse (text : String) : Except Json.Error Config :=
  Json.Reader.runOn recordShape.read text

/-- A value set in the environment, not empty. -/
def envValue (lookup : String → Option String) (name : String) : Option String :=
  match lookup (envPrefix ++ name) with
  | some v => if v.isEmpty then none else some v
  | none => none

/-- The configuration with the values set in the environment in place of the file's. -/
def applyEnv (c : Config) (lookup : String → Option String) : Config :=
  let pick (name : String) (old : Option String) : Option String :=
    match envValue lookup name with
    | some v => some v
    | none => old
  { c with
    service := (envValue lookup "SERVICE").getD c.service
    apiKey := pick "API_KEY" c.apiKey
    apiSecret := pick "API_SECRET" c.apiSecret
    username := pick "USERNAME" c.username
    password := pick "PASSWORD" c.password
    passwordMd5 := pick "PASSWORD_MD5" c.passwordMd5 }

/-- How metadata is read. -/
def parseMode (c : Config) : ParseMode := if c.skipMalformedLines then .lenient else .strict

/-- The configured service, or why there is none. -/
def resolveService (c : Config) : Except String Service := Service.ofName c.service

/-- The message for a missing item. -/
def missing (name : String) : String := name ++ " is not configured"

/-- The credentials, or the first missing item in the order key, secret, user name,
password. -/
def credentials (c : Config) : Except String Credentials := do
  let (apiKey, apiSecret) ← match c.apiKey, c.apiSecret with
    | some k, some s => pure (k, s)
    | none, none =>
      if c.service = "librefm" then pure (placeholderKey, placeholderKey)
      else throw (missing "api_key")
    | none, some _ => throw (missing "api_key")
    | some _, none => throw (missing "api_secret")
  let username ← match c.username with
    | some u => pure u
    | none => throw (missing "username")
  let passwordMd5 ← match c.passwordMd5, c.password with
    | some h, _ => pure (Text.toLower h)
    | none, some p => pure (hashPassword p)
    | none, none => throw (missing "password")
  pure ⟨apiKey, apiSecret, username, passwordMd5⟩

end Config

/-- Why a directory cannot be read as a file. -/
def isADirectory : String := "Is a directory (os error 21)"

/-- What stands at the configuration's path. -/
inductive ConfigFile where
  /-- Nothing: the defaults apply. -/
  | absent
  /-- Something that cannot be read as text, with the reason (a directory, say). -/
  | unreadable (reason : String)
  /-- A file with this text. -/
  | text (s : String)
  deriving DecidableEq, Repr

/-- Loads the configuration found at a path (shown in messages as given); a failure is a chain
of messages, outermost first. -/
def loadConfig (path : String) : ConfigFile → Except (List String) Config
  | .absent => .ok Config.default
  | .unreadable reason => .error ["Failed reading config at " ++ path, reason]
  | .text s =>
    match Config.parse s with
    | .ok c => .ok c
    | .error e => .error ["Failed parsing config at " ++ path, e.message]

end Scrobbler
