import Scrobbler.Json.Decode
import Scrobbler.Text.Integer

/-!
# The service's answers

A service answers in JSON. Any answer may be an API error: an object with a member `error`,
whose value is shown in the message with the answer's `message`, if that is a string. A session
answer carries its key at `session.key`.

A scrobble answer (a record `ScrobbleResponse`) may hold `scrobbles`, with counts of accepted
and ignored listens under `@attr`, and the reason a listen was ignored under
`scrobble.ignoredMessage`. A count is given as a 32-bit unsigned integer or as text holding
one. The reason is given in one of three forms: an object with the text under `#text` and a
code under `code`, bare text, or a bare code number. A listen that was accepted, or ignored
because the service has it already (code 91), is a success; anything else is a rejection
naming the code and the reason.
-/

namespace Scrobbler

open Json

/-- A failure as a chain of messages, outermost context first. -/
abbrev Chain := List String

/-- The wording of a chain: its messages joined by colons. -/
def Chain.message (c : Chain) : String := ": ".intercalate c

/-- Fails when an answer is an API error. -/
def checkApiError (payload : String) : Except Chain Unit :=
  match Value.parse payload with
  | .error e => .error ["Failed parsing API response", e.message]
  | .ok v =>
    match v.get? "error" with
    | some err =>
      let message := ((v.get? "message").bind Value.asString?).getD "API error"
      .error ["API error " ++ err.render ++ ": " ++ message]
    | none => .ok ()

/-- The session key of a session answer. -/
def readSessionKey (payload : String) : Except Chain String := do
  checkApiError payload
  match Value.parse payload with
  | .error e => .error ["Failed parsing session response", e.message]
  | .ok v =>
    match ((v.get? "session").bind (·.get? "key")).bind Value.asString? with
    | some k => .ok k
    | none => .error ["Missing session key in response"]

/-- How many listens the service accepted and ignored. -/
structure Acknowledgement where
  /-- Listens accepted. -/
  accepted : Nat
  /-- Listens ignored. -/
  ignored : Nat
  deriving DecidableEq, Repr

/-- Why a listen was ignored, in the forms the service uses. -/
inductive IgnoredReason where
  /-- An object with optional text and an optional code of any kind. -/
  | detailed (text : Option String) (code : Option Value)
  /-- Bare text. -/
  | text (t : String)
  /-- A bare code. -/
  | code (n : Nat)

/-- The report on the listen submitted. -/
structure ScrobbleEntry where
  /-- Why it was ignored, if it was. -/
  ignoredMessage : Option IgnoredReason

/-- The scrobbles part of an answer. -/
structure Scrobbles where
  /-- The counts. -/
  attr : Option Acknowledgement
  /-- The report on the listen. -/
  scrobble : Option ScrobbleEntry

/-- A scrobble answer. -/
structure ScrobbleAnswer where
  /-- The scrobbles part. -/
  scrobbles : Option Scrobbles

/-- The code that marks a listen the service has already. -/
def alreadyScrobbledCode : String := "91"

namespace IgnoredReason

/-- The code and text of a reason; what it leaves out is `unknown` and `Scrobble rejected`. -/
def codeAndText : IgnoredReason → String × String
  | .detailed t c =>
    (match c with
      | some (.string s) => s
      | some v => v.render
      | none => "unknown",
     t.getD "Scrobble rejected")
  | .text t => ("unknown", t)
  | .code n => (toString n, "Scrobble rejected")

/-- The detailed form decoded from a value: an object with fields `#text` and `code`. -/
def detailedShape : TreeShape (Option String × Option Value) where
  name := "IgnoredMessageField"
  fields := [
    { name := "#text"
      decode := fun (_, c) v =>
        match v with
        | .null => .ok (none, c)
        | .string s => .ok (some s, c)
        | other => .error (.invalidType other.unexpected "a string") },
    { name := "code"
      decode := fun (t, _) v =>
        match v with
        | .null => .ok (t, none)
        | other => .ok (t, some other.normalize) }]
  start := (none, none)
  fromArray := false

/-- A reason decoded from a value, trying the forms in order. -/
def ofValue (v : Value) : Option IgnoredReason :=
  match detailedShape.decode v with
  | .ok (t, c) => some (.detailed t c)
  | .error _ =>
    match v with
    | .string s => some (.text s)
    | .number (.nat n) => if n < Nat.pow 2 32 then some (.code n) else none
    | _ => none

end IgnoredReason

/-- A count decoded from a value: text, or a 32-bit unsigned integer. -/
def countOfValue : Value → Option (String ⊕ Nat)
  | .string s => some (.inl s)
  | .number (.nat n) => if n < Nat.pow 2 32 then some (.inr n) else none
  | _ => none

/-- Reads a count: a 32-bit unsigned integer, or text holding one. -/
def readCount : Reader Nat := do
  match ← Reader.readUntagged "StringOrU32" countOfValue with
  | .inl s =>
    match Text.uint32.read s.toList with
    | .ok n => pure n.toNat
    | .error e => Reader.reject (.custom e.message)
  | .inr n => pure n

/-- How the counts are read. -/
def Acknowledgement.shape : RecordShape Acknowledgement where
  name := "ScrobbleAttr"
  fields := [
    { name := "accepted", required := true
      read := fun a => do return { a with accepted := ← readCount } },
    { name := "ignored", required := true
      read := fun a => do return { a with ignored := ← readCount } }]
  start := ⟨0, 0⟩

/-- How the report on the listen is read. -/
def ScrobbleEntry.shape : RecordShape ScrobbleEntry where
  name := "ScrobbleEntry"
  fields := [
    { name := "ignoredMessage"
      read := fun _ => do
        return ⟨← Reader.readOption (Reader.readUntagged "IgnoredMessageField" IgnoredReason.ofValue)⟩ }]
  start := ⟨none⟩

/-- How the scrobbles part is read. -/
def Scrobbles.shape : RecordShape Scrobbles where
  name := "Scrobbles"
  fields := [
    { name := "@attr"
      read := fun s => do return { s with attr := ← Reader.readOption Acknowledgement.shape.read } },
    { name := "scrobble"
      read := fun s => do return { s with scrobble := ← Reader.readOption ScrobbleEntry.shape.read } }]
  start := ⟨none, none⟩

/-- How a scrobble answer is read. -/
def ScrobbleAnswer.shape : RecordShape ScrobbleAnswer where
  name := "ScrobbleResponse"
  fields := [
    { name := "scrobbles"
      read := fun _ => do return ⟨← Reader.readOption Scrobbles.shape.read⟩ }]
  start := ⟨none⟩

/-- The verdict on a scrobble answer: success, or the rejection with its code and reason. -/
def ScrobbleAnswer.verdict (a : ScrobbleAnswer) : Except Chain Unit :=
  match a.scrobbles with
  | none => .ok ()
  | some s =>
    let (accepted, ignored) := match s.attr with
      | some ack => (ack.accepted, ack.ignored)
      | none => (0, 0)
    if 0 < accepted ∧ ignored = 0 then .ok ()
    else
      let (code, text) := match s.scrobble.bind (·.ignoredMessage) with
        | some r => r.codeAndText
        | none => ("unknown", "Scrobble rejected")
      if code = alreadyScrobbledCode then .ok ()
      else .error ["Scrobble rejected (code " ++ code ++ "): " ++ text]

/-- Checks the answer to a scrobble. -/
def checkScrobbleResult (payload : String) : Except Chain Unit :=
  match Reader.runOn ScrobbleAnswer.shape.read payload with
  | .error e => .error ["Failed parsing scrobble response", e.message]
  | .ok a => a.verdict

end Scrobbler
