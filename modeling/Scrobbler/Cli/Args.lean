import Scrobbler.Binary64.Arith

/-!
# The command line

`pianobar-scrobble [OPTIONS] <EVENT>` takes the event's name and three options:
`--config-path <PATH>` (also from the environment variable `PIANOBAR_SCROBBLE_CONFIG`),
`--dry-run` and `--debug-response`; `-h`/`--help` and `-V`/`--version` print help and the
version.

## Reading

Arguments are read from left to right and the first problem stops reading. The event and the
path are not taken at once: the argument is held, with the value read for it, and settled
when the next flag, the next positional argument or the end comes. Settling finds the held
argument's problems: an option without a value or with an empty one, an option given twice.
A flag that is read normally reports the held argument's problem first. An unknown flag, a
value attached to a flag that takes none, or an argument too many reports its own problem;
the held argument is still settled (and recorded as given if it got that far) but its problem
is dropped. After `--` every argument is positional. Once all arguments are read, the
environment supplies the path if the command line did not, and a missing event is reported.

## Usage lines

A usage error shows the command's usage, built from the arguments recorded as given: those
options in the order they were recorded, then the event, or with none the full form
`[OPTIONS] <EVENT>`. The error for a value attached to a flag also counts the command's own
argument set as given once one of its members was recorded, and then writes the set as one
alternative, `<EVENT|--config-path <PATH>|--dry-run|--debug-response>`, in place of its members.

## Suggestions

An unknown long flag gets a suggestion when a known one is similar enough: Jaro similarity,
computed in binary64 arithmetic, above 0.7; the most similar wins, and of equals the later.
-/

namespace Scrobbler

namespace Cli

/-- The name the command goes by. -/
def commandName : String := "pianobar-scrobble"

/-- The command's version line. -/
def versionText : String := commandName ++ " 0.1.0\n"

/-- The command's help; the option read from the environment shows the variable's value,
empty when it is unset. -/
def helpText (configEnv : Option String) : String :=
  "Scrobble, love and ban pianobar songs from its event_command hook\n\n" ++
  "Usage: pianobar-scrobble [OPTIONS] <EVENT>\n\n" ++
  "Arguments:\n" ++
  "  <EVENT>  Event name passed by pianobar, e.g. songfinish\n\n" ++
  "Options:\n" ++
  "      --config-path <PATH>  [env: PIANOBAR_SCROBBLE_CONFIG=" ++ configEnv.getD "" ++ "]\n" ++
  "      --dry-run             Evaluate the song without contacting the service\n" ++
  "      --debug-response      Log raw API responses at debug level\n" ++
  "  -h, --help                Print help\n" ++
  "  -V, --version             Print version\n"

/-- An argument of the command, as usage lines name it. -/
inductive Arg where
  /-- The event. -/
  | event
  /-- `--config-path <PATH>`. -/
  | configPath
  /-- `--dry-run`. -/
  | dryRun
  /-- `--debug-response`. -/
  | debugResponse
  /-- `--help`. -/
  | help
  /-- `--version`. -/
  | version
  deriving DecidableEq, Repr

/-- How an argument is written in messages. -/
def Arg.display : Arg → String
  | .event => "<EVENT>"
  | .configPath => "--config-path <PATH>"
  | .dryRun => "--dry-run"
  | .debugResponse => "--debug-response"
  | .help => "--help"
  | .version => "--version"

/-- The long flags, in the order suggestions consider them. -/
def longFlags : List (String × Arg) :=
  [("config-path", .configPath), ("dry-run", .dryRun), ("debug-response", .debugResponse),
    ("help", .help), ("version", .version)]

/-- Whether an argument belongs to the command's own argument set; help and version are
added to every command and do not. -/
def Arg.inSet : Arg → Bool
  | .help => false
  | .version => false
  | _ => true

/-- The command's own argument set written as one alternative. -/
def setDisplay : String := "<EVENT|--config-path <PATH>|--dry-run|--debug-response>"

/-- The usage line for the arguments recorded as given: the full form when none is, otherwise
the options in order, then the event. With `withSet` the command's own argument set is written
as one alternative in place of its members. -/
def usage (used : List Arg) (withSet : Bool) : String :=
  if used.isEmpty && !withSet then "Usage: " ++ commandName ++ " [OPTIONS] <EVENT>"
  else
    let opts := (used.filter fun a => a != .event && !(withSet && a.inSet)).eraseDups
    let tail := if withSet then " " ++ setDisplay else " <EVENT>"
    "Usage: " ++ commandName ++ String.join (opts.map fun a => " " ++ a.display) ++ tail

/-- A usage error's text: the message, tips, the usage line if any, and where to learn more. -/
def usageErrorText (message : String) (similar : Option String) (tips : List String)
    (usageLine : Option String) : String :=
  let similarText := match similar with
    | some s => "\n\n  tip: a similar argument exists: '" ++ s ++ "'"
    | none => ""
  let tipsText :=
    if tips.isEmpty then ""
    else (if similar.isNone then "\n" else "") ++ String.join (tips.map fun t => "\n  tip: " ++ t)
  let usageText := match usageLine with
    | some u => "\n\n" ++ u
    | none => ""
  "error: " ++ message ++ similarText ++ tipsText ++ usageText ++
    "\n\nFor more information, try '--help'.\n"

/-- The Jaro similarity of two texts as the parts of its sum: common characters `m`, transpositions `t`
and the lengths; the similarity is `(m / a + m / b + (m - t) / m) / 3`. -/
structure JaroParts where
  /-- Matching characters. -/
  common : Nat
  /-- Half the matched characters out of order. -/
  transpositions : Nat
  /-- The first length. -/
  lenA : Nat
  /-- The second length. -/
  lenB : Nat

/-- Marks, for each character of `a`, the first unmatched equal character of `b` within the
window; gives the matched positions of `b` and the flags of `a`. -/
def jaroMatch (a b : List Char) (window : Nat) : List Bool × List Bool :=
  (a.zipIdx).foldl
    (fun (acc : List Bool × List Bool) (c, i) =>
      let lo := i - window
      let hi := min b.length (i + window + 1)
      let found := ((b.zipIdx).filter fun (d, j) =>
          lo ≤ j ∧ j < hi ∧ d = c ∧ acc.2.getD j false = false).head?
      match found with
      | some (_, j) => (acc.1 ++ [true], acc.2.set j true)
      | none => (acc.1 ++ [false], acc.2))
    ([], List.replicate b.length false)

/-- The Jaro parts of two texts. -/
def jaroParts (a b : String) : JaroParts :=
  let ca := a.toList
  let cb := b.toList
  let window := max ca.length cb.length / 2 - 1
  let (fa, fb) := jaroMatch ca cb window
  let ma := (ca.zip fa).filterMap fun (c, f) => if f then some c else none
  let mb := (cb.zip fb).filterMap fun (c, f) => if f then some c else none
  let t := ((ma.zip mb).filter fun (x, y) => x ≠ y).length / 2
  ⟨ma.length, t, ca.length, cb.length⟩

/-- The similarity `(m/a + m/b + (m-t)/m) / 3` in binary64 arithmetic, operations rounded
in the order written; zero without common characters. -/
def JaroParts.score (p : JaroParts) : Binary64 :=
  if p.common = 0 then Binary64.zero false
  else
    let m := Binary64.ofNat p.common
    (m / Binary64.ofNat p.lenA + m / Binary64.ofNat p.lenB
      + Binary64.ofNat (p.common - p.transpositions) / m) / Binary64.ofNat 3

/-- The similarity a suggestion must exceed: the binary64 number nearest to 0.7. -/
def similarEnough : Binary64 := Binary64.ofRatio false 7 10

/-- The known long flag most similar to a name, if one is similar enough; of equally similar
ones the later in `longFlags`. -/
def suggestFlag (name : String) : Option (String × Arg) :=
  let scored := longFlags.map fun (f, a) => ((jaroParts name f).score, f, a)
  let close := scored.filter fun c => Binary64.lt similarEnough c.1
  let best := close.foldl (fun (best : Option (Binary64 × String × Arg)) c =>
    match best with
    | some b => if Binary64.lt c.1 b.1 then some b else some c
    | none => some c) none
  best.map fun c => c.2

/-- What the command line asks for. -/
structure Invocation where
  /-- The event's name. -/
  event : String
  /-- The configuration's path, if given. -/
  configPath : Option String
  /-- Whether only to plan. -/
  dryRun : Bool
  /-- Whether to log the service's raw answers. -/
  debugResponse : Bool
  deriving DecidableEq, Repr

/-- What reading the command line ends in. -/
inductive Parsed where
  /-- Run the hook. -/
  | run (i : Invocation)
  /-- Print the help. -/
  | help
  /-- Print the version. -/
  | version
  /-- A usage error, with its text. -/
  | usageError (text : String)
  deriving DecidableEq, Repr

/-- An argument whose values are still being collected. -/
inductive Held where
  /-- `--config-path`, with its value once read. -/
  | path (value : Option String)
  /-- The event. -/
  | event (value : String)
  deriving DecidableEq, Repr

/-- Where reading the command line stands. -/
structure ArgState where
  /-- The event, once settled. -/
  event : Option String := none
  /-- The path, once settled. -/
  configPath : Option String := none
  /-- Whether `--dry-run` was given. -/
  dryRun : Bool := false
  /-- Whether `--debug-response` was given. -/
  debugResponse : Bool := false
  /-- The arguments recorded as given, in the order they were recorded. -/
  used : List Arg := []
  /-- Whether a member of the command's own argument set was ever recorded. -/
  setUsed : Bool := false
  /-- The argument whose values are being collected, if any. -/
  held : Option Held := none
  /-- Whether the event's place is taken. -/
  eventTaken : Bool := false
  /-- Whether `--` was read. -/
  trailing : Bool := false

/-- The error for an option without a value. -/
def missingValue : Parsed :=
  .usageError (usageErrorText "a value is required for '--config-path <PATH>' but none was supplied"
    none [] none)

/-- The error for an argument given twice. -/
def givenTwice (a : Arg) : Parsed :=
  .usageError (usageErrorText ("the argument '" ++ a.display ++ "' cannot be used multiple times")
    none [] (some (usage [] false)))

/-- The error for an unknown flag or an argument too many. -/
def unexpected (arg : String) (similar : Option String) (trailingTip : Bool) (usageLine : String) :
    Parsed :=
  let tips := if trailingTip then ["to pass '" ++ arg ++ "' as a value, use '-- " ++ arg ++ "'"] else []
  .usageError (usageErrorText ("unexpected argument '" ++ arg ++ "' found") similar tips
    (some usageLine))

namespace ArgState

/-- Records that an argument was given. -/
def record (s : ArgState) (a : Arg) : ArgState :=
  { s with used := if s.used.contains a then s.used else s.used ++ [a]
           setUsed := s.setUsed || a.inSet }

/-- Takes the path `v` from the command line: a path given before is dropped from the record
and reported, and an empty one is recorded and reported. -/
def setPath (s : ArgState) (v : String) : ArgState × Option Parsed :=
  if s.used.contains .configPath then
    ({ s with used := s.used.erase .configPath, configPath := none }, some (givenTwice .configPath))
  else
    let s := s.record .configPath
    if v.isEmpty then (s, some missingValue) else ({ s with configPath := some v }, none)

/-- Settles the held argument: the state after it and the problem it has, if any. -/
def settle (s : ArgState) : ArgState × Option Parsed :=
  let free := { s with held := none }
  match s.held with
  | none => (s, none)
  | some (.event v) => ({ free.record .event with event := some v }, none)
  | some (.path none) => (free, some missingValue)
  | some (.path (some v)) => free.setPath v

/-- Settles the held argument, stopping at its problem. -/
def settled (s : ArgState) : Except Parsed ArgState :=
  match s.settle with
  | (_, some p) => .error p
  | (s, none) => .ok s

/-- The error for a value attached to a flag that takes none; the usage line counts what was
recorded before the flag, the held argument not included. -/
def attachedValue (s : ArgState) (a : Arg) (value : String) : Parsed :=
  .usageError (usageErrorText
    ("unexpected value '" ++ value ++ "' for '" ++ a.display ++ "' found; no more were expected")
    none [] (some (usage ((s.used.filter (· != .event)) ++ [a]) s.setUsed)))

/-- The error for an unknown long flag; the held argument is settled first, its problem
aside, and a suggested flag counts as given. -/
def unknownLong (s : ArgState) (name : String) : Parsed :=
  let s := s.settle.1
  match suggestFlag name with
  | some (flag, a) =>
    unexpected ("--" ++ name) (some ("--" ++ flag)) false (usage (s.record a).used false)
  | none => unexpected ("--" ++ name) none true (usage s.used false)

/-- Reads a positional argument: the event, or one too many. -/
def positional (s : ArgState) (arg : String) : Except Parsed ArgState :=
  if s.eventTaken then .error (unexpected arg none false (usage [] false))
  else do
    let s ← s.settled
    pure { s with held := some (.event arg), eventTaken := true }

/-- Reads a flag without a value. -/
def flag (s : ArgState) (a : Arg) : Except Parsed ArgState := do
  let s ← s.settled
  match a with
  | .help => .error .help
  | .version => .error .version
  | _ =>
    if s.used.contains a then .error (givenTwice a)
    else
      let s := s.record a
      match a with
      | .dryRun => pure { s with dryRun := true }
      | .debugResponse => pure { s with debugResponse := true }
      | _ => pure s

/-- Reads a long flag `--name` or `--name=value`. -/
def long (s : ArgState) (name : String) (value : Option String) : Except Parsed ArgState :=
  match ((longFlags.find? (·.1 == name)).map (·.2) : Option Arg) with
  | some .configPath =>
    match value with
    | some v => do
      let s ← s.settled
      match s.setPath v with
      | (_, some p) => .error p
      | (s, none) => pure s
    | none => do
      let s ← s.settled
      pure { s with held := some (.path none) }
  | some a =>
    match value with
    | some v => .error (s.attachedValue a v)
    | none => s.flag a
  | none => .error (s.unknownLong name)

/-- Reads a cluster of short flags `-abc`. -/
def short (s : ArgState) : List Char → Except Parsed ArgState
  | [] => .ok s
  | c :: _ =>
    if c = 'h' then s.flag .help
    else if c = 'V' then s.flag .version
    else .error (unexpected (String.ofList ['-', c]) none true (usage [] false))

end ArgState

/-- Whether an argument would be read as a flag. -/
def isFlagLike (arg : String) : Bool := arg.startsWith "-" && arg.length > 1

/-- Reads one argument. -/
def ArgState.step (s : ArgState) (arg : String) : Except Parsed ArgState :=
  if s.trailing then s.positional arg
  else if arg = "--" then .ok { s with trailing := true }
  else if arg.startsWith "--" then
    let body := arg.toList.drop 2
    let name := String.ofList (body.takeWhile (· ≠ '='))
    let value := match body.dropWhile (· ≠ '=') with
      | [] => none
      | _ :: v => some (String.ofList v)
    s.long name value
  else if isFlagLike arg then s.short (arg.toList.drop 1)
  else if s.held = some (.path none) then .ok { s with held := some (.path (some arg)) }
  else s.positional arg

/-- Reads the command line; `configEnv` is the value of `PIANOBAR_SCROBBLE_CONFIG`, if set. -/
def parseArgs (args : List String) (configEnv : Option String) : Parsed :=
  match (args.foldlM ArgState.step {}).bind ArgState.settled with
  | .error p => p
  | .ok s =>
    let fromEnv : Except Parsed ArgState :=
      match configEnv with
      | some v =>
        if s.used.contains .configPath then .ok s
        else if v.isEmpty then .error missingValue
        else .ok { s.record .configPath with configPath := some v }
      | none => .ok s
    match fromEnv with
    | .error p => p
    | .ok s =>
      match s.event with
      | some e => .run ⟨e, s.configPath, s.dryRun, s.debugResponse⟩
      | none =>
        .usageError (usageErrorText "the following required arguments were not provided:\n  <EVENT>"
          none [] (some (usage (s.used ++ [.event]) false)))

end Cli

end Scrobbler
