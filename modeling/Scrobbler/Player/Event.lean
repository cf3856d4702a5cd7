/-!
# Player events and ratings

The player calls the hook with the name of an event. Two names are known, `songstart` and
`songfinish`, matched exactly; any other name is kept as it is, and shown back unchanged.

The player reports the listener's rating of a song as an integer: `0` is no rating, `1` a
love, `2` a ban. Any other integer is kept; it counts as a rating when it is positive.
-/

namespace Scrobbler

/-- The point of a song's life the player calls the hook for. -/
inductive Event where
  /-- A song began. -/
  | songStart
  /-- A song ended. -/
  | songFinish
  /-- Any other event, by its name. -/
  | other (name : String)
  deriving DecidableEq, Repr

namespace Event

/-- The event of a name; only the exact names `songstart` and `songfinish` are known. -/
def ofName (name : String) : Event :=
  if name = "songstart" then .songStart
  else if name = "songfinish" then .songFinish
  else .other name

/-- The name of an event. -/
def name : Event → String
  | .songStart => "songstart"
  | .songFinish => "songfinish"
  | .other n => n

/-- Naming an event and reading the name back gives the event's name again. -/
theorem name_ofName (n : String) : (ofName n).name = n := by
  unfold ofName
  split
  · next h => exact h.symm
  · split
    · next h => exact h.symm
    · rfl

end Event

/-- The listener's rating of a song. -/
inductive Rating where
  /-- No rating. -/
  | none
  /-- Loved. -/
  | love
  /-- Banned. -/
  | ban
  /-- An integer of no known meaning. -/
  | other (value : Int)
  deriving DecidableEq, Repr

namespace Rating

/-- The rating an integer stands for. -/
def ofInt (n : Int) : Rating :=
  if n = 0 then .none
  else if n = 1 then .love
  else if n = 2 then .ban
  else .other n

/-- Whether the listener rated the song: a love, a ban, or a positive unknown integer. -/
def isRated : Rating → Bool
  | .none => false
  | .love => true
  | .ban => true
  | .other n => decide (0 < n)

/-- How the rating is written in messages: `None`, `Love`, `Ban` or `Other(n)`. -/
def describe : Rating → String
  | .none => "None"
  | .love => "Love"
  | .ban => "Ban"
  | .other n => "Other(" ++ toString n ++ ")"

end Rating

end Scrobbler
