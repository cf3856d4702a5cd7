import Scrobbler.Handler
import Scrobbler.Config

/-!
# Signed request forms

Every request to a tracking service is a form of key-value pairs posted to the service's
address. It is signed: the pairs, sorted by key with a stable sort so that pairs of one key
keep their order, are written one after the other as key then value, the API secret is
appended, and the MD5 digest of that text, in lower-case hexadecimal, is sent as `api_sig`,
followed by `format=json`, which the signature does not cover.
-/

namespace Scrobbler

/-- The pairs of a request, in the order they are sent. -/
abbrev Form := List (String × String)

/-- The pairs sorted by key; pairs of one key keep their order. -/
def Form.sortByKey (f : Form) : Form := f.mergeSort fun a b => decide (a.1 ≤ b.1)

/-- The signature of a form under a secret. -/
def Form.signature (f : Form) (secret : String) : String :=
  Md5.hexDigest (String.join (f.sortByKey.map fun (k, v) => k ++ v) ++ secret)

/-- A form with its signature and the answer format appended. -/
def Form.signed (f : Form) (secret : String) : Form :=
  f ++ [("api_sig", f.signature secret), ("format", "json")]

/-- The pairs naming a track. -/
def TrackRef.form (t : TrackRef) : Form := [("artist", t.artist), ("track", t.title)]

/-- The pairs of a scrobble: the album when there is one, even empty, and the duration only
when positive. -/
def Scrobble.form (s : Scrobble) : Form :=
  [("artist", s.artist), ("track", s.title), ("timestamp", toString s.timestamp)]
    ++ (s.album.map fun a => ("album", a)).toList
    ++ (if 0 < s.duration then [("duration", toString s.duration)] else [])

/-- The method a call invokes. -/
def Call.method : Call → String
  | .scrobble _ => "track.scrobble"
  | .love _ => "track.love"
  | .ban _ => "track.ban"

/-- The pairs particular to a call. -/
def Call.params : Call → Form
  | .scrobble s => s.form
  | .love t => t.form
  | .ban t => t.form

/-- The token that proves the password: the MD5 digest of the user name followed by the
password's digest. -/
def Credentials.authToken (c : Credentials) : String := Md5.hexDigest (c.username ++ c.passwordMd5)

/-- The signed form that asks for a session. -/
def Credentials.sessionForm (c : Credentials) : Form :=
  Form.signed [("method", "auth.getMobileSession"), ("username", c.username),
    ("authToken", c.authToken), ("api_key", c.apiKey)] c.apiSecret

/-- The signed form of a call on a session. -/
def Call.form (call : Call) (apiKey apiSecret sessionKey : String) : Form :=
  Form.signed (call.params ++ [("method", call.method), ("api_key", apiKey), ("sk", sessionKey)])
    apiSecret

end Scrobbler
