import Scrobbler.Text.Lines
import Scrobbler.Text.Blank
import Scrobbler.Text.Debug
import Scrobbler.Text.Integer

/-!
# The player's metadata block

The player hands the hook a block of `key=value` lines. Each line is trimmed of Unicode white
space at both ends and then split at its first `=`; neither side is trimmed again, so a key may
end and a value may start with blanks. A key given twice keeps its last value.

A line that is empty after trimming, or that has no `=`, is malformed. Strict reading stops at
the first malformed line and reports it with its number, counted from one over all lines;
lenient reading passes over malformed lines.

Fields are looked up by key. An integer field is trimmed and read as a signed 64-bit decimal
integer; when it is not one, the error shows the value as given, before trimming.
-/

namespace Scrobbler

/-- How lines that are not `key=value` are treated. -/
inductive ParseMode where
  /-- A malformed line is an error. -/
  | strict
  /-- Malformed lines are passed over. -/
  | lenient
  deriving DecidableEq, Repr

/-- Why the metadata block does not give a track. -/
inductive MetadataError where
  /-- The line with this number, trimmed, is empty or has no `=`. -/
  | malformedLine (number : Nat) (text : String)
  /-- No field has this key. -/
  | missingField (key : String)
  /-- The field's value, as given, is not an integer. -/
  | invalidFieldFormat (key value : String)
  deriving DecidableEq, Repr

/-- The wording of a metadata error. -/
def MetadataError.message : MetadataError → String
  | .malformedLine n text =>
    "Malformed metadata on line " ++ toString n ++ ": " ++ Text.debugQuote text ++ " has no '='"
  | .missingField key => "Missing metadata field: " ++ key
  | .invalidFieldFormat key value =>
    "Invalid value for " ++ key ++ ": " ++ Text.debugQuote value ++ " is not an integer"

/-- What one line of the block holds, once trimmed. -/
inductive Line where
  /-- Nothing. -/
  | blank
  /-- A field. -/
  | entry (key value : String)
  /-- Text without `=`. -/
  | malformed (text : List Char)
  deriving DecidableEq, Repr

namespace Line

/-- What a line holds: trimmed, then split at its first `=`. -/
def ofChars (cs : List Char) : Line :=
  let t := Text.trimBlank cs
  if t.isEmpty then .blank
  else
    match t.dropWhile (· ≠ '=') with
    | [] => .malformed t
    | _ :: value => .entry (String.ofList (t.takeWhile (· ≠ '='))) (String.ofList value)

/-- The text a malformed line is reported with: the trimmed line. -/
def text : Line → String
  | .blank => ""
  | .entry key value => key ++ "=" ++ value
  | .malformed t => String.ofList t

end Line

/-- The fields of a metadata block: each key once with its last value, sorted by key. -/
structure Metadata where
  /-- The fields, sorted by key. -/
  entries : List (String × String)
  deriving DecidableEq, Repr

/-- Puts a field into fields sorted by key, replacing the value of an equal key. -/
def insertField (k v : String) : List (String × String) → List (String × String)
  | [] => [(k, v)]
  | (k', v') :: rest =>
    if k = k' then (k, v) :: rest
    else if k < k' then (k, v) :: (k', v') :: rest
    else (k', v') :: insertField k v rest

namespace Metadata

/-- No fields. -/
def empty : Metadata := ⟨[]⟩

/-- Sets a field, replacing an earlier value of the key. -/
def insert (m : Metadata) (k v : String) : Metadata := ⟨insertField k v m.entries⟩

/-- The value of a key. -/
def get? (m : Metadata) (k : String) : Option String := m.entries.lookup k

/-- The number of keys. -/
def size (m : Metadata) : Nat := m.entries.length

/-- Whether there are no fields. -/
def isEmpty (m : Metadata) : Bool := m.entries.isEmpty

/-- The value of a key that must be there. -/
def require (m : Metadata) (k : String) : Except MetadataError String :=
  match m.get? k with
  | some v => .ok v
  | none => .error (.missingField k)

/-- The value of a key that must be there and hold a signed 64-bit integer, blanks around it
allowed. -/
def requireInt (m : Metadata) (k : String) : Except MetadataError Int := do
  let raw ← m.require k
  match Text.int64.read (Text.trimBlank raw.toList) with
  | .ok n => .ok n
  | .error _ => .error (.invalidFieldFormat k raw)

/-- Reads numbered lines into fields; `n` is the number of the first line. -/
def addLines (mode : ParseMode) : Nat → List (List Char) → Metadata → Except MetadataError Metadata
  | _, [], m => .ok m
  | n, l :: ls, m =>
    match Line.ofChars l with
    | .entry k v => addLines mode (n + 1) ls (m.insert k v)
    | other =>
      match mode with
      | .strict => .error (.malformedLine n other.text)
      | .lenient => addLines mode (n + 1) ls m

/-- Reads a metadata block. -/
def parse (input : String) (mode : ParseMode) : Except MetadataError Metadata :=
  addLines mode 1 (Text.lines input.toList) empty

/-- The lines lenient reading passes over that are not blank, with their numbers and texts. -/
def skippedLines (input : String) : List (Nat × String) :=
  ((Text.lines input.toList).zipIdx 1).filterMap fun (l, n) =>
    match Line.ofChars l with
    | .malformed t => some (n, String.ofList t)
    | _ => none

end Metadata

end Scrobbler
