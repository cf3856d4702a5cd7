import Scrobbler.Json.Error

/-!
# Reading JSON text: the cursor

JSON text is read from left to right by a `Reader`, a computation on a `Cursor` that may fail
with an `Error` and keeps the cursor where reading stopped when it fails: the reader of a
record needs that place to finish the record and to give a position to an error found on a
value already read.

The cursor holds the characters still to be read, the line and column reached, and how many
more arrays and objects may be opened inside each other. Columns count bytes. An error found
at the next character is placed either where the cursor stands (`Reader.fail`) or one byte
past it (`Reader.failAhead`, a line further on for a line feed), as the syntax rule that finds
it says.
-/

namespace Scrobbler

namespace Json

/-- Where reading stands in a JSON text. -/
structure Cursor where
  /-- The characters not read yet. -/
  rest : List Char
  /-- The line reached, counted from one. -/
  line : Nat
  /-- The bytes read on that line. -/
  column : Nat
  /-- How many more arrays and objects may be opened. -/
  depth : Nat

/-- How deep arrays and objects may nest, the outermost one included, less one. -/
def nestingLimit : Nat := 128

/-- The cursor at the start of a text. -/
def Cursor.ofString (s : String) : Cursor := ⟨s.toList, 1, 0, nestingLimit⟩

/-- The cursor past one character. -/
def Cursor.advance (c : Cursor) : Cursor :=
  match _h : c.rest with
  | [] => c
  | ch :: rest =>
    if ch = '\n' then { c with rest, line := c.line + 1, column := 0 }
    else { c with rest, column := c.column + ch.utf8Size }

/-- The cursor past the blanks of JSON: space, tab, line feed and carriage return. -/
def Cursor.skipBlank (c : Cursor) : Cursor :=
  match _h : c.rest with
  | [] => c
  | ch :: rest =>
    if ch = ' ' ∨ ch = '\t' ∨ ch = '\r' then
      Cursor.skipBlank { c with rest, column := c.column + 1 }
    else if ch = '\n' then
      Cursor.skipBlank { c with rest, line := c.line + 1, column := 0 }
    else c
termination_by c.rest.length
decreasing_by all_goals simp [_h]

/-- Reading part of a JSON text. -/
abbrev Reader := EStateM Error Cursor

namespace Reader

/-- The next character, if any. -/
def peek : Reader (Option Char) := do return (← get).rest.head?

/-- Skips blanks, then gives the next character, if any. -/
def peekPastBlank : Reader (Option Char) := do
  modify Cursor.skipBlank
  peek

/-- Consumes one character. -/
def eat : Reader Unit := modify Cursor.advance

/-- Consumes the first byte of the next character; only done before an error, whose
position it moves by one byte. -/
def eatByte : Reader Unit := modify fun c =>
  match _h : c.rest with
  | [] => c
  | ch :: rest =>
    if ch = '\n' then { c with rest, line := c.line + 1, column := 0 }
    else { c with rest, column := c.column + 1 }

/-- Where the cursor stands. -/
def here : Reader Position := do
  let c ← get
  return ⟨c.line, c.column⟩

/-- One byte past the cursor, or the cursor at the end of the text. -/
def ahead : Reader Position := do
  let c ← get
  return match c.rest with
    | [] => ⟨c.line, c.column⟩
    | '\n' :: _ => ⟨c.line + 1, 0⟩
    | _ :: _ => ⟨c.line, c.column + 1⟩

/-- Fails with a syntax fault where the cursor stands. -/
def fail (s : Fault) : Reader α := do
  throw { problem := .fault s, position := some (← here) }

/-- Fails with a syntax fault one byte past the cursor. -/
def failAhead (s : Fault) : Reader α := do
  throw { problem := .fault s, position := some (← ahead) }

/-- An error with the cursor's position, unless it has one already. -/
def placeHere (e : Error) : Reader Error := do
  match e.position with
  | some _ => pure e
  | none => pure { e with position := some (← here) }

/-- Fails with a problem found on a value already read; the enclosing record places it. -/
def reject (p : Problem) : Reader α := throw { problem := p }

/-- Runs a reader and gives its outcome instead of failing; the cursor stays where the reader
stopped either way. -/
def attempt (r : Reader α) : Reader (Except Error α) :=
  tryCatch (Except.ok <$> r) (fun e => pure (.error e))

/-- Consumes the rest of a word (`ull` of `null`, say). A different character is consumed by
one byte and rejected. -/
def word : List Char → Reader Unit
  | [] => pure ()
  | w :: ws => do
    match ← peek with
    | none => fail .eofWhileParsingValue
    | some ch =>
      if ch = w then do eat; word ws
      else do eatByte; fail .expectedSomeIdent

/-- Opens an array or object: counts one nesting level, fails past the limit, and consumes
the bracket. -/
def enter : Reader Unit := do
  let c ← get
  if c.depth ≤ 1 then failAhead .recursionLimitExceeded
  set { c with depth := c.depth - 1 }
  eat

/-- Gives the nesting level back after an array or object. -/
def leave : Reader Unit := modify fun c => { c with depth := c.depth + 1 }

end Reader

end Json

end Scrobbler
