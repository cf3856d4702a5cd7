import Scrobbler.Service.Form
import Scrobbler.Service.Answer

/-!
# Talking to a tracking service

A client posts signed forms through a `Transport`, which gives the text of the answer or the
message of a failure to deliver. Opening a session posts the credentials and reads the session
key from the answer; a call posts its form with the session key and checks the answer for an
API error, and a scrobble's answer also for a rejection. Each failure is a chain of messages
whose outermost context names the step.

`Config.connector` is the service the hook uses: on opening a session it resolves the
configured service and credentials, which may fail before anything is sent.
-/

namespace Scrobbler

/-- Posting a form to an address: the text of the answer, or why it was not delivered. -/
abbrev Transport := String → Form → Except String String

/-- A transport with no network: every post fails at once. -/
def offline : Transport := fun url _ => .error ("error sending request for url (" ++ url ++ ")")

/-- An open session with a tracking service. -/
structure Client where
  /-- The service. -/
  service : Service
  /-- The API key. -/
  apiKey : String
  /-- The API secret, which signs the forms. -/
  apiSecret : String
  /-- The session key. -/
  sessionKey : String
  deriving DecidableEq, Repr

namespace Client

/-- Opens a session with the credentials. -/
def openSession (t : Transport) (service : Service) (c : Credentials) : Except Chain Client :=
  match t service.baseUrl c.sessionForm with
  | .error m => .error ["Failed requesting mobile session", m]
  | .ok text => do
    let key ← readSessionKey text
    pure ⟨service, c.apiKey, c.apiSecret, key⟩

/-- Sends a call on the session: nothing when it succeeds, or the failure. -/
def send (t : Transport) (client : Client) (call : Call) : Option Chain :=
  match t client.service.baseUrl (call.form client.apiKey client.apiSecret client.sessionKey) with
  | .error m => some ["Failed sending " ++ call.method ++ " request", m]
  | .ok text =>
    match checkApiError text with
    | .error c => some c
    | .ok () =>
      match call with
      | .scrobble _ =>
        match checkScrobbleResult text with
        | .error c => some c
        | .ok () => none
      | _ => none

end Client

/-- The service a configuration names, reached through a transport; the state is the open
session. -/
def Config.connector (t : Transport) (c : Config) : Connector (Option Client) where
  connect s :=
    match c.resolveService with
    | .error e => (s, some (.config e))
    | .ok service =>
      match c.credentials with
      | .error e => (s, some (.config e))
      | .ok cred =>
        match Client.openSession t service cred with
        | .error chain => (s, some (.remote chain))
        | .ok client => (some client, none)
  send call s :=
    match s with
    | some client => (s, client.send t call)
    | none => (s, some ["No session"])

end Scrobbler
