import Scrobbler.Player.Event
import Scrobbler.Player.Metadata

/-!
# The song the player reports

A track is read from the metadata block's fields in a fixed order: `artist`, `title`, `album`,
`stationName`, `songDuration`, `songPlayed`, `rating`. The first field that is missing or not an
integer where one is due decides the error. The album and the station are optional, and an
empty one counts as absent. Durations are milliseconds.
-/

namespace Scrobbler

/-- A track as the tracking service knows it: artist and title. -/
structure TrackRef where
  /-- The artist. -/
  artist : String
  /-- The title. -/
  title : String
  deriving DecidableEq, Repr

/-- The song the player reports. -/
structure Track where
  /-- The artist. -/
  artist : String
  /-- The title. -/
  title : String
  /-- The album, if known. -/
  album : Option String
  /-- The station playing it, if known. -/
  station : Option String
  /-- How long the song is, in milliseconds. -/
  durationMs : Int
  /-- How long it has played, in milliseconds. -/
  playedMs : Int
  /-- The listener's rating. -/
  rating : Rating
  deriving DecidableEq, Repr

/-- A value, unless it is absent or empty. -/
def nonEmpty : Option String → Option String
  | some v => if v.isEmpty then none else some v
  | none => none

namespace Track

/-- The track of a metadata block's fields. -/
def ofMetadata (m : Metadata) : Except MetadataError Track := do
  let artist ← m.require "artist"
  let title ← m.require "title"
  let album := nonEmpty (m.get? "album")
  let station := nonEmpty (m.get? "stationName")
  let durationMs ← m.requireInt "songDuration"
  let playedMs ← m.requireInt "songPlayed"
  let rating ← m.requireInt "rating"
  pure ⟨artist, title, album, station, durationMs, playedMs, Rating.ofInt rating⟩

/-- Artist and title. -/
def ref (t : Track) : TrackRef := ⟨t.artist, t.title⟩

end Track

/-- Reads the track of a metadata block. -/
def readTrack (input : String) (mode : ParseMode) : Except MetadataError Track := do
  Track.ofMetadata (← Metadata.parse input mode)

end Scrobbler
