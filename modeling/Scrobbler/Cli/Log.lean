import Scrobbler.Pattern.Regex
import Scrobbler.Text.Blank

/-!
# Log records and their filter

The hook reports what it does as log records: a level, a target naming the part of the hook
that speaks (`pianobar_scrobble`, `pianobar_scrobble::metadata`, ...), and a message. A record
is written on the error stream as `[LEVEL target] message`, the level padded to five
characters, after the time of day when the program runs for real.

Which records are written is decided by a filter read from a specification: directives
separated by commas, each a level (for all targets), a target (for all levels), or
`target=level`; `off` silences. A record is written when the directive with the longest
target that is a prefix of the record's target allows its level; when no directive applies it
is dropped. Without any directive only errors are written. A directive that cannot be read is
reported and ignored. A `/pattern` suffix keeps only messages in which the regular expression
matches somewhere; a pattern that does not compile is reported and ignored.
-/

namespace Scrobbler

namespace Cli

/-- How serious a record is, from the most to the least. -/
inductive Level where
  /-- An error. -/
  | error
  /-- A warning. -/
  | warn
  /-- Information. -/
  | info
  /-- Detail for debugging. -/
  | debug
  /-- Finer detail. -/
  | trace
  deriving DecidableEq, Repr

namespace Level

/-- The rank of a level: the less serious, the higher. -/
def rank : Level → Nat
  | .error => 1
  | .warn => 2
  | .info => 3
  | .debug => 4
  | .trace => 5

/-- The name of a level, padded to five characters. -/
def label : Level → String
  | .error => "ERROR"
  | .warn => "WARN "
  | .info => "INFO "
  | .debug => "DEBUG"
  | .trace => "TRACE"

end Level

/-- A log record. -/
structure LogRecord where
  /-- How serious it is. -/
  level : Level
  /-- The part of the hook that speaks. -/
  target : String
  /-- What it says. -/
  message : String
  deriving DecidableEq, Repr

/-- The line of a record, without the time. -/
def LogRecord.render (r : LogRecord) : String :=
  "[" ++ r.level.label ++ " " ++ r.target ++ "] " ++ r.message

/-- The civil date, in the proleptic Gregorian calendar, of a day counted from 1970-01-01:
year, month and day. -/
def civilOfDays (days : Int) : Int × Nat × Nat :=
  let z := days + 719468
  let era := (if 0 ≤ z then z else z - 146096) / 146097
  let doe := (z - era * 146097).toNat
  let yoe := (doe - doe / 1460 + doe / 36524 - doe / 146096) / 365
  let doy := doe - (365 * yoe + yoe / 4 - yoe / 100)
  let mp := (5 * doy + 2) / 153
  let d := doy - (153 * mp + 2) / 5 + 1
  let m := if mp < 10 then mp + 3 else mp - 9
  let y := (yoe : Int) + era * 400 + (if m ≤ 2 then 1 else 0)
  (y, m, d)

/-- A number written with at least `width` digits. -/
def padded (width n : Nat) : String :=
  let s := toString n
  String.ofList (List.replicate (width - s.length) '0') ++ s

/-- A moment, in seconds since the epoch, in UTC as RFC 3339 to the second. -/
def utcText (secs : Int) : String :=
  let days := secs / 86400
  let rest := (secs - days * 86400).toNat
  let (y, m, d) := civilOfDays days
  let year := if 0 ≤ y then padded 4 y.toNat else "-" ++ padded 4 y.natAbs
  year ++ "-" ++ padded 2 m ++ "-" ++ padded 2 d ++ "T" ++ padded 2 (rest / 3600) ++ ":" ++
    padded 2 (rest / 60 % 60) ++ ":" ++ padded 2 (rest % 60) ++ "Z"

example : utcText 0 = "1970-01-01T00:00:00Z" := by decide +kernel
example : utcText 1714564800 = "2024-05-01T12:00:00Z" := by decide +kernel

/-- The line of a record with the time it was written, in seconds since the epoch. -/
def LogRecord.stamped (r : LogRecord) (secs : Int) : String :=
  "[" ++ utcText secs ++ " " ++ r.level.label ++ " " ++ r.target ++ "] " ++ r.message

/-- A directive of a log filter: for targets starting with `name` (all targets when there is
none), the least serious rank written, `0` writing nothing. -/
structure Directive where
  /-- The target prefix. -/
  name : Option String
  /-- The least serious rank written. -/
  rank : Nat
  deriving DecidableEq, Repr

/-- A log filter. -/
structure LogFilter where
  /-- The directives, shortest target first. -/
  directives : List Directive
  /-- A pattern a message must hold a match of, if any. -/
  pattern : Option Pattern.Regex := none
  deriving DecidableEq, Repr

/-- The rank of a level name, case aside: `off` is `0`. -/
def rankOfName? (s : String) : Option Nat :=
  let l := String.ofList (s.toList.map Char.toLower)
  if l = "off" then some 0
  else if l = "error" then some 1
  else if l = "warn" then some 2
  else if l = "info" then some 3
  else if l = "debug" then some 4
  else if l = "trace" then some 5
  else none

/-- Adds a directive, replacing one with the same target. -/
def addDirective (ds : List Directive) (d : Directive) : List Directive :=
  if ds.any (·.name == d.name) then ds.map fun e => if e.name == d.name then d else e
  else ds ++ [d]

/-- The length of a directive's target in bytes of UTF-8. -/
def Directive.nameLength (d : Directive) : Nat := (d.name.map String.utf8ByteSize).getD 0

/-- A text without the white space at its ends. -/
def trimSpaces (s : String) : String := String.ofList (Text.trimBlank s.toList)

/-- Reads one comma-separated part of a specification into directives, or a warning. -/
def readDirective (ds : List Directive) (part : String) : List Directive × Option String :=
  let s := trimSpaces part
  if s.isEmpty then (ds, none)
  else
    match s.splitOn "=" with
    | [only] =>
      match rankOfName? only with
      | some r => (addDirective ds ⟨none, r⟩, none)
      | none => (addDirective ds ⟨some only, 5⟩, none)
    | [name, level] =>
      let level := trimSpaces level
      if level.isEmpty then (addDirective ds ⟨some name, 5⟩, none)
      else
        match rankOfName? level with
        | some r => (addDirective ds ⟨some name, r⟩, none)
        | none => (ds, some ("warning: invalid logging spec '" ++ level ++ "', ignoring it"))
    | _ => (ds, some ("warning: invalid logging spec '" ++ s ++ "', ignoring it"))

/-- Reads a specification: the filter and the warnings about parts that were ignored. -/
def LogFilter.parse (spec : String) : LogFilter × List String :=
  match spec.splitOn "/" with
  | [mods] => withDirectives mods none
  | [mods, text] => withDirectives mods (some text)
  | _ =>
    (⟨[⟨none, 1⟩], none⟩,
      ["warning: invalid logging spec '" ++ spec ++ "' (too many '/'s), ignoring it"])
where
  /-- The filter of the directive part, with the message pattern. -/
  withDirectives (mods : String) (text : Option String) : LogFilter × List String :=
    let (ds, warnings) := (mods.splitOn ",").foldl
      (fun (acc : List Directive × List String) part =>
        match readDirective acc.1 part with
        | (ds, some w) => (ds, acc.2 ++ [w])
        | (ds, none) => (ds, acc.2))
      ([], [])
    let ds := if ds.isEmpty then [⟨none, 1⟩] else ds
    let (pattern, warnings) := match text.map Pattern.Regex.compile with
      | some (.ok r) => (some r, warnings)
      | some (.error e) =>
        (none, warnings ++ ["warning: invalid regex filter - " ++ e ++ ", ignoring it"])
      | none => (none, warnings)
    (⟨ds.mergeSort (fun a b => a.nameLength ≤ b.nameLength), pattern⟩, warnings)

/-- Whether a filter writes a record. -/
def LogFilter.allows (f : LogFilter) (r : LogRecord) : Bool :=
  let applies := f.directives.filter fun d =>
    match d.name with
    | some n => n.isPrefixOf r.target
    | none => true
  let levelOk := match applies.getLast? with
    | some d => decide (r.level.rank ≤ d.rank)
    | none => false
  levelOk && match f.pattern with
    | some p => p.isMatch r.message
    | none => true

end Cli

end Scrobbler
