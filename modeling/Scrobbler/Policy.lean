import Scrobbler.Binary64.Arith
import Scrobbler.Json.Decode
import Scrobbler.Text.Integer

/-!
# When a song counts as listened to

A policy says when a finished song is scrobbled: it must last at least `minDurationSecs`
seconds, and then either more than `thresholdPercent` percent of it, or more than
`playedEnoughSecs` seconds, must have been played. Times in seconds are turned into
milliseconds with 64-bit arithmetic that saturates, and the percentage is computed in binary64
arithmetic, `100 * played / duration`, compared strictly with the threshold.

A policy is read from JSON as a record `ScrobblePolicy` whose fields all have defaults: 50
percent, 240 seconds, 30 seconds.
-/

namespace Scrobbler

/-- When a finished song is scrobbled. -/
structure Policy where
  /-- The share of the song, in percent, that must have been played. -/
  thresholdPercent : Binary64
  /-- Or the seconds that must have been played, whatever the share. -/
  playedEnoughSecs : Int
  /-- Shorter songs, in seconds, are never scrobbled. -/
  minDurationSecs : Int

namespace Policy

/-- Half the song, or four minutes; songs under thirty seconds never count. -/
def default : Policy := ⟨Binary64.ofNat 50, 240, 30⟩

/-- Seconds as milliseconds, saturating at the 64-bit bounds. -/
def millis (secs : Int) : Int := Text.int64.clamp (secs * 1000)

/-- The share of a song played, in percent, in binary64 arithmetic. -/
def playedPercent (durationMs playedMs : Int) : Binary64 :=
  Binary64.ofNat 100 * Binary64.ofInt playedMs / Binary64.ofInt durationMs

/-- Whether a song of `durationMs` milliseconds, played for `playedMs`, is scrobbled. -/
def isEligible (p : Policy) (durationMs playedMs : Int) : Bool :=
  if durationMs ≤ 0 ∨ durationMs < millis p.minDurationSecs then false
  else
    Binary64.lt p.thresholdPercent (playedPercent durationMs playedMs)
      || decide (millis p.playedEnoughSecs < playedMs)

/-- How a policy is read from JSON text. -/
def recordShape : Json.RecordShape Policy where
  name := "ScrobblePolicy"
  fields := [
    { name := "threshold_percent"
      read := fun p => do return { p with thresholdPercent := ← Json.Reader.readBinary64 } },
    { name := "played_enough_secs"
      read := fun p => do return { p with playedEnoughSecs := ← Json.Reader.readInt64 } },
    { name := "min_duration_secs"
      read := fun p => do return { p with minDurationSecs := ← Json.Reader.readInt64 } }]
  start := default

/-- How a policy is decoded from a JSON value. -/
def treeShape : Json.TreeShape Policy where
  name := "ScrobblePolicy"
  fields := [
    { name := "threshold_percent"
      decode := fun p v => do return { p with thresholdPercent := ← v.toBinary64 } },
    { name := "played_enough_secs"
      decode := fun p v => do return { p with playedEnoughSecs := ← v.toInt64 } },
    { name := "min_duration_secs"
      decode := fun p v => do return { p with minDurationSecs := ← v.toInt64 } }]
  start := default

/-- Decodes a policy from a JSON value read as a key-value map. -/
def ofValue (v : Json.Value) : Except Json.Problem Policy := treeShape.decode v

/-- The policy as a JSON value. -/
def toValue (p : Policy) : Json.Value :=
  .object [("min_duration_secs", .number (.ofInt p.minDurationSecs)),
    ("played_enough_secs", .number (.ofInt p.playedEnoughSecs)),
    ("threshold_percent", .number (.float p.thresholdPercent))]

end Policy

end Scrobbler
