import Scrobbler.Hook
import Scrobbler.Cli.Args
import Scrobbler.Cli.Log

/-!
# Running the command

One run of the command, as a function of everything it reads: the arguments, the environment,
the bytes on standard input, what stands at each path, the clock and the network. It gives the
exit status and what is written on the two streams.

The steps are those of the hook (`runHook`), with the command line in front and log records
along the way: the handler's, and the service's own (the session it opens and, with
`--debug-response`, the raw answer to each call). Help and version go to standard output with
status 0; a usage error goes to the error stream with status 2; a failure is written as its
chain of messages joined by colons, with status 1. A start time that overflows aborts the
program with status 101.

Left out: the time of day in front of each record, which `Exit.errorText` takes as a parameter,
and the building of the HTTP client (its user agent, and a failure to build it, which depends
on the machine's TLS set-up and not on anything the program reads).
-/

namespace Scrobbler

namespace Cli

/-- What the command writes on its error stream: log records, and plain text. -/
inductive ErrorLine where
  /-- A log record. -/
  | log (r : LogRecord)
  /-- Text, a whole line or more. -/
  | text (s : String)
  deriving DecidableEq, Repr

/-- How a run ends. -/
structure Exit where
  /-- The exit status. -/
  code : Nat
  /-- What is written on standard output. -/
  stdout : String := ""
  /-- What is written on the error stream, in order. -/
  stderr : List ErrorLine := []
  deriving DecidableEq, Repr

/-- What a run reads from its surroundings. -/
structure World where
  /-- The environment. -/
  env : String → Option String
  /-- The bytes on standard input. -/
  stdin : ByteArray
  /-- What stands at a path, as given. -/
  fileAt : String → ConfigFile
  /-- The clock, in milliseconds since the epoch. -/
  nowMs : Int
  /-- The network. -/
  transport : Transport

/-- The log target of the command itself. -/
def mainTarget : String := "pianobar_scrobble"

/-- The log target of one part of the command. -/
def target (part : String) : String := mainTarget ++ "::" ++ part

/-- The configuration's path when none is given: under the home directory, if known. -/
def defaultConfigPath (home : Option String) : String :=
  let rel := ".config/pianobar/scrobble.json"
  match home with
  | some h =>
    if h.isEmpty then rel
    else if h.endsWith "/" then h ++ rel
    else h ++ "/" ++ rel
  | none => rel

/-- The log records of reading the metadata block: the lines passed over, then how many
fields were read. -/
def metadataNotes (input : String) (mode : ParseMode) (m : Metadata) : List LogRecord :=
  let skipped := match mode with
    | .lenient => (Metadata.skippedLines input).map fun (n, t) =>
      ⟨.warn, target "metadata", "Skipping malformed metadata line " ++ toString n ++ ": " ++ Text.debugQuote t⟩
    | .strict => []
  let count :=
    if m.isEmpty then ⟨.warn, target "metadata", "No metadata received on stdin"⟩
    else ⟨.debug, target "metadata", "Read " ++ toString m.size ++ " metadata fields"⟩
  skipped ++ [count]

/-- `artist - title`. -/
def trackLabel (t : Track) : String := t.artist ++ " - " ++ t.title

/-- The record planning leaves: a rating that counts as one but asks for no action. -/
def planNotes (event : Event) (track : Track) : List LogRecord :=
  match event, track.rating with
  | .songFinish, .love | .songFinish, .ban => []
  | .songFinish, other =>
    if other.isRated then
      [⟨.debug, target "handler", "No action for " ++ other.describe ++ " on " ++ trackLabel track⟩]
    else []
  | _, _ => []

/-- The lines a dry run logs about an outcome. -/
def dryRunSummary (event : Event) (o : Outcome) : List String :=
  (match o.scrobbled with
    | some s => ["Would scrobble " ++ s.artist ++ " - " ++ s.title ++ " at " ++ toString s.timestamp]
    | none => []) ++
  (match o.rated with
    | some a => ["Would send " ++ a.name]
    | none => []) ++
  (if o.isNoop then ["Nothing to do for " ++ event.name] else [])

/-- The record of a call the service accepted. -/
def callNote (ref : TrackRef) : Call → LogRecord
  | .scrobble s => ⟨.info, target "handler",
      "Scrobbled " ++ s.artist ++ " - " ++ s.title ++ " started at " ++ toString s.timestamp⟩
  | .love _ => ⟨.info, target "handler", "Sent Love for " ++ ref.artist ++ " - " ++ ref.title⟩
  | .ban _ => ⟨.info, target "handler", "Sent Ban for " ++ ref.artist ++ " - " ++ ref.title⟩

/-- A service that also keeps, after the records it writes itself, the records of the calls it
accepted. -/
def noting (c : Connector (σ × List LogRecord)) (ref : TrackRef) :
    Connector (σ × List LogRecord) where
  connect := c.connect
  send call s :=
    let (s', r) := c.send call s
    ((s'.1, s'.2 ++ (if r.isNone then [callNote ref call] else [])), r)

/-- The record of a session opened: the service as the program names it, and the user. -/
def sessionNote (service : Service) (username : String) : LogRecord :=
  ⟨.debug, target "service", "Opened " ++ service.describe ++ " session for " ++ username⟩

/-- The record of the raw answer to a call. -/
def responseNote (client : Client) (call : Call) (text : String) : LogRecord :=
  ⟨.debug, target "service",
    call.method ++ " response from " ++ client.service.baseUrl ++ ": " ++ text⟩

/-- The service a configuration names, with the records it writes: the session it opens, and,
when `debugResponse` is set, the raw answer to each call that was delivered, before the answer
is checked. -/
def serviceLog (t : Transport) (c : Config) (debugResponse : Bool) :
    Connector (Option Client × List LogRecord) where
  connect s :=
    let (s', r) := (c.connector t).connect s.1
    let opened := match s', r, c.credentials with
      | some client, none, .ok cred => [sessionNote client.service cred.username]
      | _, _, _ => []
    ((s', s.2 ++ opened), r)
  send call s :=
    let answer := match s.1, debugResponse with
      | some client, true =>
        match t client.service.baseUrl
            (call.form client.apiKey client.apiSecret client.sessionKey) with
        | .ok text => [responseNote client call text]
        | .error _ => []
      | _, _ => []
    let (s', r) := (c.connector t).send call s.1
    ((s', s.2 ++ answer), r)

/-- The text the program writes when the start time overflows, and aborts. -/
def overflowText (e : ClockOverflow) : String :=
  "thread 'main' panicked at src/scrobble.rs:46:6:\n" ++ e.message ++
    "\nnote: run with `RUST_BACKTRACE=1` environment variable to display a backtrace\n"

/-- A run that ends in a failure after writing records. -/
def failWith (notes : List LogRecord) (chain : List String) : Exit :=
  ⟨1, "", notes.map .log ++ [.text (": ".intercalate chain ++ "\n")]⟩

/-- Runs the hook for an invocation; gives the records written before the end and the end. -/
def runInvocation (w : World) (inv : Invocation) : Exit :=
  let event := Event.ofName inv.event
  match String.fromUTF8? w.stdin with
  | none => failWith [] ["Failed reading song metadata from stdin", "stream did not contain valid UTF-8"]
  | some input =>
    let path := inv.configPath.getD (defaultConfigPath (w.env "HOME"))
    let file := w.fileAt path
    let configNotes : List LogRecord := match file with
      | .absent => [⟨.debug, target "config", "No config at " ++ path ++ ", using defaults"⟩]
      | _ => []
    match loadConfig path file with
    | .error chain => failWith configNotes chain
    | .ok c =>
      let c := c.applyEnv w.env
      match Metadata.parse input c.parseMode with
      | .error e => failWith configNotes [e.message]
      | .ok m =>
        let notes := configNotes ++ metadataNotes input c.parseMode m
        match Track.ofMetadata m with
        | .error e => failWith notes [e.message]
        | .ok track =>
          if inv.dryRun then
            match plan event track c.policy w.nowMs with
            | .error e => ⟨101, "", notes.map .log ++ [.text (overflowText e)]⟩
            | .ok o =>
              let summary := (dryRunSummary event o).map fun l => LogRecord.mk .info mainTarget l
              ⟨0, "", (notes ++ planNotes event track ++ summary).map .log⟩
          else
            let station := track.station.getD "unknown"
            let handling : LogRecord := ⟨.debug, target "handler",
              "Handling " ++ event.name ++ " for " ++ trackLabel track ++ " from station " ++ station⟩
            let notes := notes ++ [handling]
            match plan event track c.policy w.nowMs with
            | .error e => ⟨101, "", notes.map .log ++ [.text (overflowText e)]⟩
            | .ok o =>
              let notes := notes ++ planNotes event track
              if o.isNoop then
                let nothing : LogRecord := ⟨.debug, target "handler",
                  "Nothing to submit for " ++ event.name ++ " of " ++ trackLabel track⟩
                ⟨0, "", (notes ++ [nothing]).map .log⟩
              else
                let connector := noting (serviceLog w.transport c inv.debugResponse) track.ref
                match handle connector event track c.policy w.nowMs (none, []) with
                | ((_, sent), .ok _) => ⟨0, "", (notes ++ sent).map .log⟩
                | ((_, sent), .error e) =>
                  match e with
                  | .clock ov =>
                    ⟨101, "", (notes ++ sent).map ErrorLine.log ++ [ErrorLine.text (overflowText ov)]⟩
                  | other => failWith (notes ++ sent) [other.message]

/-- Runs the command: reads the command line, then runs the hook; log records are kept or
dropped by the filter that `RUST_LOG` specifies (`warn` when it is unset). -/
def run (args : List String) (w : World) : Exit :=
  let (filter, warnings) := LogFilter.parse ((w.env "RUST_LOG").getD "warn")
  let warningLines := warnings.map fun t => ErrorLine.text (t ++ "\n")
  let keep (l : ErrorLine) : Bool := match l with
    | .log r => filter.allows r
    | .text _ => true
  match parseArgs args (w.env "PIANOBAR_SCROBBLE_CONFIG") with
  | .help => ⟨0, helpText (w.env "PIANOBAR_SCROBBLE_CONFIG"), warningLines⟩
  | .version => ⟨0, versionText, warningLines⟩
  | .usageError t => ⟨2, "", warningLines ++ [.text t]⟩
  | .run inv =>
    let e := runInvocation w inv
    { e with stderr := warningLines ++ e.stderr.filter keep }

/-- The configuration path a command line will read, if it gets that far. -/
def configPathOf (args : List String) (env : String → Option String) : Option String :=
  match parseArgs args (env "PIANOBAR_SCROBBLE_CONFIG") with
  | .run inv => some (inv.configPath.getD (defaultConfigPath (env "HOME")))
  | _ => none

/-- The error stream as text, each record rendered by `stamp`. -/
def Exit.errorText (e : Exit) (stamp : LogRecord → String) : String :=
  String.join (e.stderr.map fun
    | .log r => stamp r ++ "\n"
    | .text s => s)

end Cli

end Scrobbler
