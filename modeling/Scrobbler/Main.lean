import Scrobbler.Cli.Run
import Std.Time.DateTime.Timestamp

/-!
# The program

Reads what a run of the command needs from the process (arguments, environment, standard
input, the configuration file, the clock), runs it, and writes the result. The network is not
reached: every request fails as undeliverable.
-/

open Scrobbler

/-- The environment variables a run may read. -/
def readVariables : List String :=
  ["HOME", "RUST_LOG", "PIANOBAR_SCROBBLE_CONFIG", "PIANOBAR_SCROBBLE_SERVICE",
    "PIANOBAR_SCROBBLE_API_KEY", "PIANOBAR_SCROBBLE_API_SECRET", "PIANOBAR_SCROBBLE_USERNAME",
    "PIANOBAR_SCROBBLE_PASSWORD", "PIANOBAR_SCROBBLE_PASSWORD_MD5"]

/-- Reads a stream to its end. -/
partial def readAll (s : IO.FS.Stream) (acc : ByteArray) : IO ByteArray := do
  let chunk ← s.read 65536
  if chunk.isEmpty then pure acc else readAll s (acc ++ chunk)

/-- What stands at a path. -/
def probeFile (path : String) : IO ConfigFile := do
  try
    let bytes ← IO.FS.readBinFile path
    match String.fromUTF8? bytes with
    | some text => pure (.text text)
    | none => pure (.unreadable "stream did not contain valid UTF-8")
  catch e =>
    match e with
    | .noFileOrDirectory .. => pure .absent
    | _ => pure (.unreadable isADirectory)

def main (args : List String) : IO UInt32 := do
  let values ← readVariables.mapM fun name => do return (name, ← IO.getEnv name)
  let env : String → Option String := fun name => ((values.find? (·.1 == name)).bind (·.2))
  let stdin ← readAll (← IO.getStdin) ByteArray.empty
  let path := (Cli.configPathOf args env).getD ""
  let file : String × ConfigFile := (path, ← if path.isEmpty then pure .absent else probeFile path)
  let nowMs := (← Std.Time.Timestamp.now).toMillisecondsSinceUnixEpoch.val
  let world : Cli.World :=
    ⟨env, stdin, fun p => if p = file.1 then file.2 else .absent, nowMs, offline⟩
  let exit := Cli.run args world
  let out ← IO.getStdout
  out.putStr exit.stdout
  out.flush
  let err ← IO.getStderr
  err.putStr (exit.errorText fun r => r.stamped (nowMs / 1000))
  err.flush
  pure exit.code.toUInt32
