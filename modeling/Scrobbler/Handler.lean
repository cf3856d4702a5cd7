import Scrobbler.Submission

/-!
# Handling a song against the tracking service

The handler plans what a song deserves and sends it: when there is something to send, it opens
a session once, then submits the scrobble, then the rating, in that order, and stops at the
first failure. When there is nothing to send it never opens a session.

The service is a `Connector`: opening a session and sending a call each act on a state (what
the service has seen) and may fail. A `Script` is a service whose answers are fixed in
advance; it records every opening and every call before it answers, so its log shows exactly
what the handler asked of it.

Main statement: the calls sent are the plan's calls (`Outcome.calls`), in order, up to the
first that fails.
-/

namespace Scrobbler

/-- Why handling a song fails. -/
inductive HandleError where
  /-- The service configuration is incomplete or names an unknown service. -/
  | config (text : String)
  /-- The service failed; the messages go from the outermost context inwards. -/
  | remote (chain : List String)
  /-- The start time of the song does not fit in 64 bits. -/
  | clock (e : ClockOverflow)
  deriving DecidableEq, Repr

/-- The wording of a handling failure: a configuration problem is introduced as such, and a
service failure shows its messages joined by colons. -/
def HandleError.message : HandleError → String
  | .config text => "Configuration error: " ++ text
  | .remote chain => ": ".intercalate chain
  | .clock e => e.message

/-- A call on an open session. -/
inductive Call where
  /-- Submit a listen. -/
  | scrobble (s : Scrobble)
  /-- Love a track. -/
  | love (t : TrackRef)
  /-- Ban a track. -/
  | ban (t : TrackRef)
  deriving DecidableEq, Repr

/-- The call that sends a rating action for a track. -/
def RatingAction.call (a : RatingAction) (t : TrackRef) : Call :=
  match a with
  | .love => .love t
  | .ban => .ban t

/-- The calls an outcome asks for, in the order they are sent: the scrobble, then the rating. -/
def Outcome.calls (o : Outcome) (t : TrackRef) : List Call :=
  (o.scrobbled.map Call.scrobble).toList ++ (o.rated.map (·.call t)).toList

/-- A tracking service as the handler uses it, acting on a state `σ`. -/
structure Connector (σ : Type) where
  /-- Opens a session. -/
  connect : σ → σ × Option HandleError
  /-- Sends a call; a failure is a chain of messages. -/
  send : Call → σ → σ × Option (List String)

namespace Connector

/-- Sends calls in order, stopping at the first failure. -/
def sendAll (c : Connector σ) : List Call → σ → σ × Option (List String)
  | [], s => (s, none)
  | call :: rest, s =>
    match c.send call s with
    | (s', some e) => (s', some e)
    | (s', none) => c.sendAll rest s'

end Connector

/-- Handles a song: plans, and when there is something to send, opens a session and sends the
plan's calls. -/
def handle (c : Connector σ) (event : Event) (track : Track) (policy : Policy) (nowMs : Int)
    (s : σ) : σ × Except HandleError Outcome :=
  match plan event track policy nowMs with
  | .error e => (s, .error (.clock e))
  | .ok o =>
    if o.isNoop then (s, .ok o)
    else
      match c.connect s with
      | (s', some e) => (s', .error e)
      | (s', none) =>
        match c.sendAll (o.calls track.ref) s' with
        | (s'', some chain) => (s'', .error (.remote chain))
        | (s'', none) => (s'', .ok o)

/-- A tracking service whose answers are fixed in advance: for each step, nothing when it
succeeds, or the message it fails with. -/
structure Script where
  /-- How opening a session fails. -/
  failConnect : Option String := none
  /-- How a scrobble fails. -/
  failScrobble : Option String := none
  /-- How a love fails. -/
  failLove : Option String := none
  /-- How a ban fails. -/
  failBan : Option String := none
  deriving DecidableEq, Repr

/-- What a scripted service saw, in order: sessions opened, carrying `α`, and calls. -/
inductive Seen (α : Type) where
  /-- A session was opened. -/
  | connect (info : α)
  /-- A call was received. -/
  | call (c : Call)
  deriving DecidableEq, Repr

/-- The record a scripted service keeps: how often a session was asked for, and what it saw. -/
structure SessionLog (α : Type) where
  /-- How often a session was asked for, whether or not it opened. -/
  connects : Nat := 0
  /-- What the service saw, in order. -/
  seen : List (Seen α) := []
  deriving DecidableEq, Repr

namespace Script

/-- How a call fails. -/
def failureOf (sc : Script) : Call → Option String
  | .scrobble _ => sc.failScrobble
  | .love _ => sc.failLove
  | .ban _ => sc.failBan

/-- The scripted service. Opening a session first runs `opening`, which may fail before the
service sees anything or give what the opening carries; every call is recorded before it is
answered. -/
def connector (sc : Script) (opening : Except HandleError α) : Connector (SessionLog α) where
  connect s :=
    let s := { s with connects := s.connects + 1 }
    match opening with
    | .error e => (s, some e)
    | .ok info =>
      ({ s with seen := s.seen ++ [.connect info] }, sc.failConnect.map fun m => .remote [m])
  send call s :=
    ({ s with seen := s.seen ++ [.call call] }, (sc.failureOf call).map fun m => [m])

end Script

end Scrobbler
