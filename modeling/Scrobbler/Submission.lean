import Scrobbler.Player.Track
import Scrobbler.Policy

/-!
# What a finished song deserves

A song is only acted upon when it finishes. It is then scrobbled when the policy finds it
listened to, and loved or banned when the listener rated it so; other ratings are left alone.

A scrobble carries the time the song started, in whole seconds since the epoch: the clock
less the time played, divided by 1000 rounding down. The difference is taken in 64-bit
arithmetic and fails when it leaves that range (`ClockOverflow`). The duration is the song's
length in whole seconds, rounded toward zero.
-/

namespace Scrobbler

/-- The start time of a song does not fit in 64 bits: the clock less the time played
overflows. -/
inductive ClockOverflow where
  /-- The subtraction overflowed. -/
  | subtraction
  deriving DecidableEq, Repr

/-- The wording of the failure. -/
def ClockOverflow.message : ClockOverflow → String
  | .subtraction => "attempt to subtract with overflow"

/-- A listen, as submitted to the tracking service. -/
structure Scrobble where
  /-- The artist. -/
  artist : String
  /-- The title. -/
  title : String
  /-- The album, if known. -/
  album : Option String
  /-- When the song started, in seconds since the epoch. -/
  timestamp : Int
  /-- How long the song is, in seconds. -/
  duration : Int
  deriving DecidableEq, Repr

/-- When a song started, in seconds since the epoch, from the clock and the time played, both
in milliseconds. -/
def startTimestamp (nowMs playedMs : Int) : Except ClockOverflow Int :=
  let startMs := nowMs - playedMs
  if Text.int64.fits startMs then .ok (startMs / 1000) else .error .subtraction

/-- The scrobble of a track at a clock time. -/
def Scrobble.ofTrack (t : Track) (nowMs : Int) : Except ClockOverflow Scrobble := do
  let timestamp ← startTimestamp nowMs t.playedMs
  pure ⟨t.artist, t.title, t.album, timestamp, t.durationMs.tdiv 1000⟩

/-- A rating the tracking service is told about. -/
inductive RatingAction where
  /-- The song is loved. -/
  | love
  /-- The song is banned. -/
  | ban
  deriving DecidableEq, Repr

/-- The name of a rating action. -/
def RatingAction.name : RatingAction → String
  | .love => "Love"
  | .ban => "Ban"

/-- The rating action a rating asks for. -/
def Rating.action? : Rating → Option RatingAction
  | .love => some .love
  | .ban => some .ban
  | _ => Option.none

/-- What a song deserves: a scrobble, a rating action, both or neither. -/
structure Outcome where
  /-- The scrobble to submit. -/
  scrobbled : Option Scrobble
  /-- The rating to send. -/
  rated : Option RatingAction
  deriving DecidableEq, Repr

/-- Nothing to send. -/
def Outcome.none : Outcome := ⟨Option.none, Option.none⟩

/-- Whether there is nothing to send. -/
def Outcome.isNoop (o : Outcome) : Bool := o.scrobbled.isNone && o.rated.isNone

/-- What a song deserves at an event, under a policy, at a clock time. -/
def plan (event : Event) (track : Track) (policy : Policy) (nowMs : Int) :
    Except ClockOverflow Outcome := do
  if event ≠ .songFinish then return Outcome.none
  let scrobbled ←
    if policy.isEligible track.durationMs track.playedMs then
      some <$> Scrobble.ofTrack track nowMs
    else pure Option.none
  pure ⟨scrobbled, track.rating.action?⟩

end Scrobbler
