/-!
# Tracking services

Two tracking services speak the same protocol at different addresses: Last.fm, named
`lastfm`, and Libre.fm, named `librefm`. Names are matched exactly.
-/

namespace Scrobbler

/-- A tracking service. -/
inductive Service where
  /-- Last.fm. -/
  | lastFm
  /-- Libre.fm. -/
  | libreFm
  deriving DecidableEq, Repr

namespace Service

/-- The service of a name, or the message that refuses it. -/
def ofName (name : String) : Except String Service :=
  if name = "lastfm" then .ok .lastFm
  else if name = "librefm" then .ok .libreFm
  else .error ("Unsupported service: " ++ name)

/-- The address requests are posted to. -/
def baseUrl : Service → String
  | .lastFm => "https://ws.audioscrobbler.com/2.0/"
  | .libreFm => "https://libre.fm/2.0/"

/-- How the service is written in messages. -/
def describe : Service → String
  | .lastFm => "LastFm"
  | .libreFm => "LibreFm"

end Service

end Scrobbler
