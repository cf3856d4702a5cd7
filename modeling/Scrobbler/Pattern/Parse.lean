import Scrobbler.Pattern.Error
import Scrobbler.Pattern.Hir
import Scrobbler.Text.Alphanumeric
import Scrobbler.Text.Blank

/-!
# Reading a pattern

A pattern is read once, left to right, into what it means. The syntax is the usual one of
regular expressions: literal characters, `.`, the anchors `^` and `$`, escapes (`\n`, `\x41`,
`\u{1F600}`, `\d`, `\b`, `\A`, `\z`, ...), bracketed classes with ranges, nested classes,
ASCII classes such as `[:alpha:]` and the set operations `&&`, `--` and `~~`, groups
(capturing, named with `?P<name>` or `?<name>`, or not capturing with flags as in `(?i:...)`),
flag groups such as `(?x)` that change the rest of the enclosing group, alternation with `|`,
and the repetitions `?`, `*`, `+` and `{n}`, `{n,}`, `{n,m}`, each possibly followed by `?`.
With the flag `x`, white space and comments from `#` to the end of the line are skipped.

Two kinds of error are told apart. An error of syntax stops the reading at once. An error of
meaning, such as a class that needs a Unicode table none of which is known here, is kept and
reported only when the whole pattern has been read without an error of syntax; the first one
met is the one reported. Each error carries the span of the part at fault.

Every loop reads at least one character per round, so each is bounded by the length of what
is left of the pattern, which is given as its fuel.
-/

namespace Scrobbler

namespace Pattern

/-- A flag that a flag group can set or clear. -/
inductive Flag where
  /-- `i`: letters match either case. -/
  | caseless
  /-- `m`: `^` and `$` match at line ends. -/
  | multiLine
  /-- `s`: `.` matches line ends. -/
  | dotAll
  /-- `U`: repetitions prefer fewer rounds. -/
  | swapGreed
  /-- `u`: classes speak of Unicode. -/
  | unicode
  /-- `R`: carriage returns end lines. -/
  | crlf
  /-- `x`: white space and comments are skipped. -/
  | ignoreSpace
  deriving DecidableEq, Repr

/-- The flag a letter names. -/
def Flag.ofChar? : Char → Option Flag
  | 'i' => some .caseless
  | 'm' => some .multiLine
  | 's' => some .dotAll
  | 'U' => some .swapGreed
  | 'u' => some .unicode
  | 'R' => some .crlf
  | 'x' => some .ignoreSpace
  | _ => none

/-- One item of a flag group: a flag, or the negation that clears the flags after it. -/
inductive FlagItem where
  /-- The negation `-`. -/
  | negation
  /-- A flag. -/
  | flag (f : Flag)
  deriving DecidableEq, Repr

/-- What a flag group does to a flag, `negated` telling whether a negation came before:
set it (`some true`), clear it (`some false`), or leave it (`none`). -/
def flagState (f : Flag) : Bool → List FlagItem → Option Bool
  | _, [] => none
  | _, .negation :: rest => flagState f true rest
  | negated, .flag g :: rest => if g = f then some (!negated) else flagState f negated rest

/-- The flags after a flag group. -/
def Flags.update (fl : Flags) (items : List FlagItem) : Flags :=
  { caseless := (flagState .caseless false items).getD fl.caseless
    multiLine := (flagState .multiLine false items).getD fl.multiLine
    dotAll := (flagState .dotAll false items).getD fl.dotAll
    unicode := (flagState .unicode false items).getD fl.unicode
    crlf := (flagState .crlf false items).getD fl.crlf }

/-- An item of a sequence being read: an expression, or a flag group, which matches the empty
text but cannot be repeated. -/
inductive Piece where
  /-- An expression. -/
  | expr (h : Hir)
  /-- A flag group. -/
  | flags

/-- What a sequence of items matches. -/
def Piece.sequence (ps : List Piece) : Hir :=
  Hir.sequence (ps.filterMap fun | .expr h => some h | .flags => none)

/-- A group or an alternation left open while what follows is read. -/
inductive Frame where
  /-- A group: the sequence before it, the span of its parenthesis, and whether white space
  was skipped and the flags in force before it. -/
  | group (outer : List Piece) (openSpan : Span) (spaceBefore : Bool) (flagsBefore : Flags)
  /-- The alternatives read so far. -/
  | alternation (branches : List Hir)

/-- A set operation of a class. -/
inductive SetOp where
  /-- `&&`. -/
  | inter
  /-- `--`. -/
  | diff
  /-- `~~`. -/
  | symmDiff
  deriving DecidableEq, Repr

/-- A part of a class read so far: its set and the span it covers. -/
structure ClassPart where
  /-- The set. -/
  set : CharSet
  /-- The span. -/
  span : Span

/-- The items of a class being read, joined by union. -/
structure ClassUnion where
  /-- The union of the items. -/
  set : CharSet
  /-- The span from the first item to the last, empty where the union began if none. -/
  span : Span
  /-- Whether an item has been read. -/
  started : Bool

/-- An empty union starting at a place. -/
def ClassUnion.empty (p : Position) : ClassUnion := ⟨CharSet.none, Span.at p, false⟩

/-- A union with one more item. -/
def ClassUnion.push (u : ClassUnion) (set : CharSet) (sp : Span) : ClassUnion :=
  ⟨u.set.union set, ⟨if u.started then u.span.start else sp.start, sp.stop⟩, true⟩

/-- A bracket or an operation left open while a class is read. -/
inductive ClassFrame where
  /-- An open bracket: the union it is an item of, whether it is negated, and the span from
  the bracket to the first item. -/
  | bracket (parent : ClassUnion) (negated : Bool) (openSpan : Span)
  /-- An operation waiting for its right side. -/
  | op (kind : SetOp) (lhs : ClassPart)

/-- The state of a reading. -/
structure Reader where
  /-- What is left of the pattern. -/
  rest : List Char
  /-- Where it starts. -/
  pos : Position
  /-- Whether white space and comments are skipped. -/
  space : Bool := false
  /-- The flags in force. -/
  flags : Flags := {}
  /-- The open groups and alternations, innermost first. -/
  groups : List Frame := []
  /-- The open brackets and operations of a class, innermost first. -/
  classes : List ClassFrame := []
  /-- The names of the groups read so far, with their spans. -/
  names : List (String × Span) := []
  /-- The first error of meaning met. -/
  meaning : Option SyntaxError := none

/-- A reading step. -/
abbrev Read := EStateM SyntaxError Reader

/-- The character at the reading place. -/
def peek : Read (Option Char) := do return (← get).rest.head?

/-- The character after the one at the reading place. -/
def peekNext : Read (Option Char) := do return (← get).rest.tail.head?

/-- The reading place. -/
def here : Read Position := do return (← get).pos

/-- Whether the whole pattern has been read. -/
def atEnd : Read Bool := do return (← get).rest.isEmpty

/-- Moves past one character; whether one is left after it. -/
def bump : Read Bool :=
  modifyGet fun s => match s.rest with
    | [] => (false, s)
    | c :: rest => (!rest.isEmpty, { s with rest := rest, pos := s.pos.next c })

/-- The span of the character at the reading place. -/
def spanChar : Read Span := do
  let s ← get
  match s.rest with
  | c :: _ => return ⟨s.pos, s.pos.next c⟩
  | [] => return Span.at s.pos

/-- Stops the reading with an error of syntax. -/
def fail {α : Type} (kind : ErrorKind) (span : Span) : Read α := throw ⟨kind, span, none⟩

/-- Stops the reading with an error of syntax spanning from a place to the reading place. -/
def failFrom {α : Type} (kind : ErrorKind) (start : Position) : Read α := do
  fail kind ⟨start, ← here⟩

/-- Keeps an error of meaning, unless one was met before. -/
def note (kind : ErrorKind) (span : Span) : Read Unit :=
  modify fun s => if s.meaning.isSome then s else { s with meaning := some ⟨kind, span, none⟩ }

/-- Past a comment, up to and including the line feed ending it. -/
def skipComment : List Char → Position → List Char × Position
  | [], p => ([], p)
  | c :: rest, p => if c = '\n' then (rest, p.next c) else skipComment rest (p.next c)

/-- Past white space and comments. -/
def skipSpace : Nat → List Char → Position → List Char × Position
  | 0, rest, p => (rest, p)
  | _, [], p => ([], p)
  | fuel + 1, c :: rest, p =>
    if Text.isBlank c then skipSpace fuel rest (p.next c)
    else if c = '#' then
      let (rest', p') := skipComment rest (p.next c)
      skipSpace fuel rest' p'
    else (c :: rest, p)

/-- Skips white space and comments when the flag `x` is on. -/
def bumpSpace : Read Unit :=
  modify fun s =>
    if s.space then
      let (rest, p) := skipSpace s.rest.length s.rest s.pos
      { s with rest := rest, pos := p }
    else s

/-- Moves past one character and then past white space and comments when they are skipped;
whether a character is left. -/
def bumpAndSpace : Read Bool := do
  if !(← bump) then return false
  bumpSpace
  return !(← atEnd)

/-- The first character that is neither white space nor a comment sign at the start of a
comment, in what follows the reading place. -/
def peekPastSpace (inComment : Bool) : List Char → Option Char
  | [] => none
  | c :: rest =>
    if Text.isBlank c then peekPastSpace inComment rest
    else if !inComment && c = '#' then peekPastSpace true rest
    else some c

/-- The next character that counts after the one at the reading place: with the flag `x`,
white space and a comment sign are passed over, and when nothing else follows it is the
character just after. -/
def peekSpace : Read (Option Char) := do
  let s ← get
  if !s.space then return s.rest.tail.head?
  match s.rest with
  | [] => return none
  | _ :: after => return (peekPastSpace false after).orElse fun _ => after.head?

/-- Moves past some text if it comes next; whether it did. -/
def bumpIf (t : String) : Read Bool :=
  modifyGet fun s =>
    if t.toList.isPrefixOf s.rest then
      (true, { s with rest := s.rest.drop t.length, pos := t.toList.foldl Position.next s.pos })
    else (false, s)

/-- The characters from the reading place satisfying `p`, moving past each with `advance`. -/
def gather (p : Char → Bool) (advance : Read Bool) : Nat → List Char → Read (List Char)
  | 0, acc => pure acc.reverse
  | fuel + 1, acc => do
    match ← peek with
    | some c =>
      if p c then
        let _ ← advance
        gather p advance fuel (c :: acc)
      else pure acc.reverse
    | none => pure acc.reverse

/-- The fuel for a loop over what is left of the pattern. -/
def budget : Read Nat := do return (← get).rest.length + 1

/-- Moves past white space with `advance`. -/
def skipBlanks (advance : Read Bool) : Nat → Read Unit
  | 0 => pure ()
  | n + 1 => do
    match ← peek with
    | some c => if Text.isBlank c then do let _ ← advance; skipBlanks advance n else pure ()
    | none => pure ()

/-- The value of decimal digits. -/
def decimalValue (ds : List Char) : Nat :=
  ds.foldl (fun n d => 10 * n + (d.toNat - '0'.toNat)) 0

/-- The value of a hexadecimal digit. -/
def hexDigit (c : Char) : Nat :=
  if c.isDigit then c.toNat - '0'.toNat
  else if 'a' ≤ c ∧ c ≤ 'f' then c.toNat - 'a'.toNat + 10
  else c.toNat - 'A'.toNat + 10

/-- Whether a character is a hexadecimal digit. -/
def isHexDigit (c : Char) : Bool :=
  c.isDigit || ('a' ≤ c && c ≤ 'f') || ('A' ≤ c && c ≤ 'F')

/-- The value of hexadecimal digits. -/
def hexValue (ds : List Char) : Nat := ds.foldl (fun n d => 16 * n + hexDigit d) 0

/-- Whether a number is a character: at most `0x10FFFF`, and no surrogate. -/
def isScalar (n : Nat) : Bool := n < 0xD800 || (0xDFFF < n && n ≤ 0x10FFFF)

/-- The greatest number a count can be. -/
def countLimit : Nat := 4294967295

/-- Reads the number of a counted repetition, white space around it passed over. Its error
is returned rather than raised: whether it counts is the caller's choice. -/
def parseDecimal : Read (Except SyntaxError Nat) := do
  skipBlanks bump (← budget)
  let start ← here
  let digits ← gather Char.isDigit bumpAndSpace (← budget) []
  let stop ← here
  skipBlanks bumpAndSpace (← budget)
  if digits.isEmpty then return .error ⟨.repetitionCountDecimalEmpty, ⟨start, stop⟩, none⟩
  let n := decimalValue digits
  if countLimit < n then return .error ⟨.decimalInvalid, ⟨start, stop⟩, none⟩
  return .ok n

/-- The value of a read that may have failed, or its error raised. -/
def ofExcept {α : Type} : Except SyntaxError α → Read α
  | .ok a => pure a
  | .error e => throw e

/-- An assertion an escape or an anchor stands for, before the flags say what it means. -/
inductive Assertion where
  /-- `^`. -/
  | startLine
  /-- `$`. -/
  | endLine
  /-- `\A`. -/
  | startText
  /-- `\z`. -/
  | endText
  /-- `\b`. -/
  | wordBoundary
  /-- `\B`. -/
  | notWordBoundary
  /-- `\<` or `\b{start}`. -/
  | wordStart
  /-- `\>` or `\b{end}`. -/
  | wordEnd
  /-- `\b{start-half}`. -/
  | wordStartHalf
  /-- `\b{end-half}`. -/
  | wordEndHalf
  deriving DecidableEq, Repr

/-- The condition an assertion stands for under some flags. -/
def Assertion.look (fl : Flags) : Assertion → Look
  | .startLine => if fl.multiLine then (if fl.crlf then .startLineCrlf else .startLine) else .start
  | .endLine => if fl.multiLine then (if fl.crlf then .endLineCrlf else .endLine) else .stop
  | .startText => .start
  | .endText => .stop
  | .wordBoundary => if fl.unicode then .wordUnicode else .wordAscii
  | .notWordBoundary => if fl.unicode then .wordUnicode else .notWordAscii
  | .wordStart => if fl.unicode then .wordUnicode else .wordStartAscii
  | .wordEnd => if fl.unicode then .wordUnicode else .wordEndAscii
  | .wordStartHalf => if fl.unicode then .wordUnicode else .wordStartHalfAscii
  | .wordEndHalf => if fl.unicode then .wordUnicode else .wordEndHalfAscii

/-- A class of digits, spaces or word characters, as `\d`, `\s` and `\w` name them. -/
inductive PerlClass where
  /-- Digits. -/
  | digit
  /-- White space. -/
  | space
  /-- Word characters. -/
  | word
  deriving DecidableEq, Repr

/-- The ASCII characters of such a class. -/
def PerlClass.ascii : PerlClass → CharSet
  | .digit => CharSet.range 0x30 0x39
  | .space => ⟨[(0x09, 0x0D), (0x20, 0x20)]⟩
  | .word => ⟨[(0x30, 0x39), (0x41, 0x5A), (0x5F, 0x5F), (0x61, 0x7A)]⟩

/-- What an escape or a plain character stands for. -/
inductive Primitive where
  /-- A character, with its byte value when written `\xNN`. -/
  | literal (span : Span) (c : Char) (byte : Option Nat)
  /-- An assertion. -/
  | assertion (span : Span) (a : Assertion)
  /-- A class of digits, spaces or word characters, perhaps negated. -/
  | perl (span : Span) (k : PerlClass) (negated : Bool)
  /-- A Unicode property class, perhaps negated. -/
  | property (span : Span) (negated : Bool)

/-- The span of what a primitive was read from. -/
def Primitive.span : Primitive → Span
  | .literal sp .. => sp
  | .assertion sp _ => sp
  | .perl sp .. => sp
  | .property sp _ => sp

/-- Whether a character has a meaning of its own in a pattern. -/
def isMeta (c : Char) : Bool := "\\.+*?()|[]\x7b\x7d^$#&-~".toList.contains c

/-- Whether a character stands for itself after a backslash: a sign with a meaning, or an
ASCII character that is neither a letter, a digit, `<` nor `>`. -/
def isEscapeable (c : Char) : Bool :=
  isMeta c || (c.toNat < 0x80 && !c.isAlphanum && c != '<' && c != '>')

/-- Reads the hexadecimal digits of an escape of fixed width, the first at the reading place;
`start` is where the escape starts. -/
def hexDigits (start : Position) (width : Nat) (short : Bool) : Read Primitive := do
  let dstart ← here
  let digits ← loop width true []
  let _ ← bumpAndSpace
  let stop ← here
  let n := hexValue digits
  if isScalar n then return .literal ⟨start, stop⟩ (Char.ofNat n) (if short then some n else none)
  fail .escapeHexInvalid ⟨dstart, stop⟩
where
  /-- Reads `k` more digits. -/
  loop : Nat → Bool → List Char → Read (List Char)
    | 0, _, acc => pure acc.reverse
    | k + 1, first, acc => do
      if !first then
        if !(← bumpAndSpace) then fail .escapeUnexpectedEof (Span.at (← here))
      match ← peek with
      | some c =>
        if isHexDigit c then loop k false (c :: acc)
        else fail .escapeHexInvalidDigit (← spanChar)
      | none => fail .escapeUnexpectedEof (Span.at (← here))

/-- Reads the digits of an escape in braces, the reading place at the brace; `start` is where
the escape starts. -/
def hexBraced (start : Position) : Read Primitive := do
  let bracePos ← here
  let dstart := (← spanChar).stop
  let digits ← loop (← budget) []
  if ← atEnd then failFrom .escapeUnexpectedEof bracePos
  let stop ← here
  let _ ← bumpAndSpace
  if digits.isEmpty then failFrom .escapeHexEmpty bracePos
  let n := hexValue digits
  if n ≤ countLimit && isScalar n then return .literal ⟨start, ← here⟩ (Char.ofNat n) none
  fail .escapeHexInvalid ⟨dstart, stop⟩
where
  /-- Reads digits up to the closing brace. -/
  loop : Nat → List Char → Read (List Char)
    | 0, acc => pure acc.reverse
    | k + 1, acc => do
      if !(← bumpAndSpace) then return acc.reverse
      match ← peek with
      | some '}' => pure acc.reverse
      | some c =>
        if isHexDigit c then loop k (c :: acc)
        else fail .escapeHexInvalidDigit (← spanChar)
      | none => pure acc.reverse

/-- Reads a hexadecimal escape, the reading place at its letter `x`, `u` or `U`. -/
def parseHex (start : Position) (letter : Char) : Read Primitive := do
  if !(← bumpAndSpace) then fail .escapeUnexpectedEof (Span.at (← here))
  if (← peek) = some '{' then hexBraced start
  else hexDigits start (if letter = 'x' then 2 else if letter = 'u' then 4 else 8) (letter = 'x')

/-- Reads a Unicode property class, the reading place at its letter `p` or `P`. -/
def parseProperty (start : Position) (negated : Bool) : Read Primitive := do
  if !(← bumpAndSpace) then fail .escapeUnexpectedEof (Span.at (← here))
  if (← peek) = some '{' then
    skipName (← budget)
    if ← atEnd then fail .escapeUnexpectedEof (Span.at (← here))
    let _ ← bump
  else
    if (← peek) = some '\\' then fail .unicodeClassInvalid (← spanChar)
    let _ ← bumpAndSpace
  return .property ⟨start, ← here⟩ negated
where
  /-- Moves to the closing brace. -/
  skipName : Nat → Read Unit
    | 0 => pure ()
    | k + 1 => do
      if ← bumpAndSpace then
        if (← peek) != some '}' then skipName k

/-- Whether a character can be part of the name of a word boundary. -/
def isBoundaryNameChar (c : Char) : Bool := c.isAlpha || c = '-'

/-- Reads a named word boundary such as `\b{start}`, the reading place at the brace; `none`
when the brace starts a counted repetition instead, the reading place then unchanged. -/
def specialWordBoundary (start : Position) : Read (Option Assertion) := do
  let saved ← get
  let braceStart ← here
  if !(← bumpAndSpace) then failFrom .specialWordOrRepetitionUnexpectedEof start
  let contents ← here
  match ← peek with
  | some c =>
    if !isBoundaryNameChar c then
      set saved
      return none
  | none => pure ()
  let name ← gather isBoundaryNameChar bumpAndSpace (← budget) []
  if (← peek) != some '}' then failFrom .specialWordBoundaryUnclosed braceStart
  let stop ← here
  let _ ← bump
  match String.ofList name with
  | "start" => return some .wordStart
  | "end" => return some .wordEnd
  | "start-half" => return some .wordStartHalf
  | "end-half" => return some .wordEndHalf
  | _ => fail .specialWordBoundaryUnrecognized ⟨contents, stop⟩

/-- The class of digits, spaces or word characters a letter names, and whether negated. -/
def PerlClass.ofChar? : Char → Option (PerlClass × Bool)
  | 'd' => some (.digit, false)
  | 'D' => some (.digit, true)
  | 's' => some (.space, false)
  | 'S' => some (.space, true)
  | 'w' => some (.word, false)
  | 'W' => some (.word, true)
  | _ => none

/-- Reads an escape, the reading place at its backslash. -/
def parseEscape : Read Primitive := do
  let start ← here
  if !(← bump) then failFrom .escapeUnexpectedEof start
  let some c ← peek | failFrom .escapeUnexpectedEof start
  if c.isDigit then fail .unsupportedBackreference ⟨start, (← spanChar).stop⟩
  if c = 'x' || c = 'u' || c = 'U' then return ← parseHex start c
  if c = 'p' || c = 'P' then return ← parseProperty start (c = 'P')
  if let some (k, negated) := PerlClass.ofChar? c then
    let _ ← bump
    return .perl ⟨start, ← here⟩ k negated
  let _ ← bump
  let sp : Span := ⟨start, ← here⟩
  if isEscapeable c then return .literal sp c none
  match c with
  | 'a' => return .literal sp '\x07' none
  | 'f' => return .literal sp '\x0C' none
  | 't' => return .literal sp '\t' none
  | 'n' => return .literal sp '\n' none
  | 'r' => return .literal sp '\r' none
  | 'v' => return .literal sp '\x0B' none
  | 'A' => return .assertion sp .startText
  | 'z' => return .assertion sp .endText
  | 'b' =>
    if (← peek) = some '{' then
      if let some a ← specialWordBoundary start then
        return .assertion ⟨start, ← here⟩ a
    return .assertion sp .wordBoundary
  | 'B' => return .assertion sp .notWordBoundary
  | '<' => return .assertion sp .wordStart
  | '>' => return .assertion sp .wordEnd
  | _ => fail .escapeUnrecognized sp

/-- What a character written in a pattern outside a class matches under the flags in force. -/
def literalExpr (sp : Span) (c : Char) (byte : Option Nat) : Read Hir := do
  let fl := (← get).flags
  let one := CharSet.single c.toNat
  if !fl.unicode && 0x7F < byte.getD 0 then
    note .invalidUtf8 sp
    return .chars one
  if fl.caseless then
    if fl.unicode then note .unicodeCaseUnavailable sp
    else if 0x7F < c.toNat then note .unicodeNotAllowed sp
    return .chars one.asciiFold
  if !fl.unicode && 0x7F < c.toNat then note .unicodeNotAllowed sp
  return .chars one

/-- Every character. -/
def anyChar : CharSet := CharSet.negateScalars CharSet.none

/-- What `.` matches under the flags in force. -/
def dotExpr (sp : Span) : Read Hir := do
  let fl := (← get).flags
  if !fl.unicode then note .invalidUtf8 sp
  if fl.dotAll then return .chars anyChar
  if fl.crlf then return .chars (anyChar.diff ⟨[(0x0A, 0x0A), (0x0D, 0x0D)]⟩)
  return .chars (anyChar.diff (CharSet.single 0x0A))

/-- The set of a class of digits, spaces or word characters under the flags in force. -/
def perlSet (sp : Span) (k : PerlClass) (negated : Bool) : Read CharSet := do
  let fl := (← get).flags
  if fl.unicode then
    note .unicodePerlClassNotFound sp
    return CharSet.none
  if negated then
    note .invalidUtf8 sp
    return k.ascii.negateBytes
  return k.ascii

/-- The set of a Unicode property class: none is known. -/
def propertySet (sp : Span) : Read CharSet := do
  if (← get).flags.unicode then note .unicodePropertyNotFound sp
  else note .unicodeNotAllowed sp
  return CharSet.none

/-- What an escape or a plain character matches outside a class. -/
def primitiveExpr : Primitive → Read Hir
  | .literal sp c byte => literalExpr sp c byte
  | .assertion _ a => do return .look (a.look (← get).flags)
  | .perl sp k negated => do return .chars (← perlSet sp k negated)
  | .property sp _ => do return .chars (← propertySet sp)

/-- Reads what comes at the reading place outside a class and is not an operator. -/
def parsePrimitive : Read Hir := do
  match ← peek with
  | some '\\' => primitiveExpr (← parseEscape)
  | some '.' =>
    let sp ← spanChar
    let _ ← bump
    dotExpr sp
  | some '^' =>
    let _ ← bump
    return .look (Assertion.startLine.look (← get).flags)
  | some '$' =>
    let _ ← bump
    return .look (Assertion.endLine.look (← get).flags)
  | some c =>
    let sp ← spanChar
    let _ ← bump
    literalExpr sp c none
  | none => return .empty

/-- The code of a character written in a class, when bytes are matched. -/
def classByte (sp : Span) (c : Char) (byte : Option Nat) : Read Nat := do
  match byte with
  | some b =>
    if 0x7F < b then note .invalidUtf8 sp
    return b
  | none =>
    if 0x7F < c.toNat then note .unicodeNotAllowed sp
    return c.toNat

/-- The set of a character written in a class. -/
def classLiteral (sp : Span) (c : Char) (byte : Option Nat) : Read CharSet := do
  if (← get).flags.unicode then return CharSet.single c.toNat
  return CharSet.single (← classByte sp c byte)

/-- An ASCII class, by its name. -/
def asciiClass? : String → Option CharSet
  | "alnum" => some ⟨[(0x30, 0x39), (0x41, 0x5A), (0x61, 0x7A)]⟩
  | "alpha" => some ⟨[(0x41, 0x5A), (0x61, 0x7A)]⟩
  | "ascii" => some (CharSet.range 0 0x7F)
  | "blank" => some ⟨[(0x09, 0x09), (0x20, 0x20)]⟩
  | "cntrl" => some ⟨[(0, 0x1F), (0x7F, 0x7F)]⟩
  | "digit" => some (CharSet.range 0x30 0x39)
  | "graph" => some (CharSet.range 0x21 0x7E)
  | "lower" => some (CharSet.range 0x61 0x7A)
  | "print" => some (CharSet.range 0x20 0x7E)
  | "punct" => some ⟨[(0x21, 0x2F), (0x3A, 0x40), (0x5B, 0x60), (0x7B, 0x7E)]⟩
  | "space" => some ⟨[(0x09, 0x0D), (0x20, 0x20)]⟩
  | "upper" => some (CharSet.range 0x41 0x5A)
  | "word" => some ⟨[(0x30, 0x39), (0x41, 0x5A), (0x5F, 0x5F), (0x61, 0x7A)]⟩
  | "xdigit" => some ⟨[(0x30, 0x39), (0x41, 0x46), (0x61, 0x66)]⟩
  | _ => none

/-- A set folded to both cases when letters match either case, then negated if asked, under
the flags in force; `sp` is the part it was read from. -/
def foldAndNegate (sp : Span) (set : CharSet) (negated : Bool) : Read CharSet := do
  let fl := (← get).flags
  if fl.unicode then
    if fl.caseless && !set.isEmpty then note .unicodeCaseUnavailable sp
    return if negated then set.negateScalars else set
  let set := if fl.caseless then set.asciiFold else set
  let set := if negated then set.negateBytes else set
  if !set.isAscii then note .invalidUtf8 sp
  return set

/-- Reads an ASCII class such as `[:alpha:]` or `[:^digit:]` at the reading place, if one is
there; otherwise the reading place is left as it was. -/
def parseAsciiClass : Read (Option ClassPart) := do
  let saved ← get
  let start ← here
  let back : Read (Option ClassPart) := do
    set saved
    return none
  if !(← bump) then return ← back
  if (← peek) != some ':' then return ← back
  if !(← bump) then return ← back
  let mut negated := false
  if (← peek) = some '^' then
    negated := true
    if !(← bump) then return ← back
  let name ← gather (· != ':') bump (← budget) []
  if ← atEnd then return ← back
  if !(← bumpIf ":]") then return ← back
  match asciiClass? (String.ofList name) with
  | some set =>
    let sp : Span := ⟨start, ← here⟩
    return some ⟨← foldAndNegate sp set negated, sp⟩
  | none => back

/-- Stops the reading at the end of an unclosed class, with the span of its innermost open
bracket. -/
def unclosedClass {α : Type} : Read α := do
  let s ← get
  match s.classes.findSome? fun | .bracket _ _ sp => some sp | .op .. => none with
  | some sp => fail .classUnclosed sp
  | none => fail .classUnclosed (Span.at s.pos)

/-- The result of a set operation; when letters match either case under Unicode, folding
either side is an error of meaning, the right side's first. -/
def combine (kind : SetOp) (lhs rhs : ClassPart) : Read ClassPart := do
  let fl := (← get).flags
  let (l, r) ← if fl.unicode then
      if fl.caseless then
        if !rhs.set.isEmpty then note .unicodeCaseUnavailable rhs.span
        if !lhs.set.isEmpty then note .unicodeCaseUnavailable lhs.span
      pure (lhs.set, rhs.set)
    else if fl.caseless then pure (lhs.set.asciiFold, rhs.set.asciiFold)
    else pure (lhs.set, rhs.set)
  let set := match kind with
    | .inter => l.inter r
    | .diff => l.diff r
    | .symmDiff => l.symmDiff r
  return ⟨set, ⟨lhs.span.start, rhs.span.stop⟩⟩

/-- Applies the operation waiting for a right side, if any. -/
def popOp (rhs : ClassPart) : Read ClassPart := do
  match (← get).classes with
  | .op kind lhs :: rest =>
    modify fun s => { s with classes := rest }
    combine kind lhs rhs
  | _ => return rhs

/-- Starts a set operation with the items read so far as its left side. -/
def pushOp (kind : SetOp) (u : ClassUnion) : Read ClassUnion := do
  let lhs ← popOp ⟨u.set, u.span⟩
  modify fun s => { s with classes := .op kind lhs :: s.classes }
  return ClassUnion.empty (← here)

/-- Reads an opening bracket, its negation and the leading `-` and `]` that stand for
themselves, and opens it: the items of the new class read so far. -/
def openBracket (parent : ClassUnion) : Read ClassUnion := do
  let start ← here
  if !(← bumpAndSpace) then failFrom .classUnclosed start
  let mut negated := false
  if (← peek) = some '^' then
    negated := true
    if !(← bumpAndSpace) then failFrom .classUnclosed start
  let u ← dashes (ClassUnion.empty (← here)) start (← budget)
  let u ← if !u.started && (← peek) = some ']' then do
      let sp ← spanChar
      let u := u.push (← classLiteral sp ']' none) sp
      if !(← bumpAndSpace) then failFrom .classUnclosed start
      pure u
    else pure u
  let openSpan : Span := ⟨start, ← here⟩
  modify fun s => { s with classes := .bracket parent negated openSpan :: s.classes }
  return u
where
  /-- Reads the leading `-`, each standing for itself. -/
  dashes (u : ClassUnion) (start : Position) : Nat → Read ClassUnion
    | 0 => pure u
    | k + 1 => do
      if (← peek) != some '-' then return u
      let sp ← spanChar
      let u := u.push (← classLiteral sp '-' none) sp
      if !(← bumpAndSpace) then fail .classUnclosed (Span.at start)
      dashes u start k

/-- Closes the innermost bracket: the items of the class around it, or the set of the whole
class when it was the outermost. -/
def closeBracket (u : ClassUnion) : Read (ClassUnion ⊕ CharSet) := do
  let prev ← popOp ⟨u.set, u.span⟩
  match (← get).classes with
  | .bracket parent negated openSpan :: rest =>
    modify fun s => { s with classes := rest }
    let _ ← bump
    let sp : Span := ⟨openSpan.start, ← here⟩
    let set ← foldAndNegate sp prev.set negated
    if rest.isEmpty then return .inr set
    return .inl (parent.push set sp)
  | _ => return .inr prev.set

/-- Reads one item of a class that may start a range: an escape or a plain character. -/
def classPrimitive : Read Primitive := do
  if (← peek) = some '\\' then parseEscape
  else
    let sp ← spanChar
    let c := (← peek).getD ' '
    let _ ← bump
    return .literal sp c none

/-- The set of an item of a class that is not part of a range. -/
def classItem : Primitive → Read ClassPart
  | .literal sp c byte => do return ⟨← classLiteral sp c byte, sp⟩
  | .perl sp k negated => do return ⟨← perlSet sp k negated, sp⟩
  | .property sp _ => do return ⟨← propertySet sp, sp⟩
  | .assertion sp _ => fail .classEscapeInvalid sp

/-- The character an end of a range stands for. -/
def rangeEnd : Primitive → Read (Span × Char × Option Nat)
  | .literal sp c byte => pure (sp, c, byte)
  | p => fail .classRangeLiteral p.span

/-- Reads an item of a class, or a range of two. -/
def parseRange (u : ClassUnion) : Read ClassUnion := do
  let p1 ← classPrimitive
  bumpSpace
  if ← atEnd then unclosedClass
  let after ← peekSpace
  if (← peek) != some '-' || after = some ']' || after = some '-' then
    let part ← classItem p1
    return u.push part.set part.span
  if !(← bumpAndSpace) then unclosedClass
  let p2 ← classPrimitive
  let sp : Span := ⟨p1.span.start, p2.span.stop⟩
  let (sp1, lo, byte1) ← rangeEnd p1
  let (sp2, hi, byte2) ← rangeEnd p2
  if hi < lo then fail .classRangeInvalid sp
  if (← get).flags.unicode then return u.push (CharSet.range lo.toNat hi.toNat) sp
  let a ← classByte sp1 lo byte1
  let b ← classByte sp2 hi byte2
  return u.push (CharSet.range a b) sp

/-- Reads the rest of a bracketed class: the set of the whole class. -/
def classLoop : Nat → ClassUnion → Read CharSet
  | 0, u => pure u.set
  | k + 1, u => do
    bumpSpace
    match ← peek with
    | none => unclosedClass
    | some '[' =>
      let ascii ← if (← get).classes.isEmpty then pure none else parseAsciiClass
      match ascii with
      | some part => classLoop k (u.push part.set part.span)
      | none => classLoop k (← openBracket u)
    | some ']' =>
      match ← closeBracket u with
      | .inl u => classLoop k u
      | .inr set => pure set
    | some c =>
      let next ← peekNext
      if c = '&' && next = some '&' then
        let _ ← bumpIf "&&"
        classLoop k (← pushOp .inter u)
      else if c = '-' && next = some '-' then
        let _ ← bumpIf "--"
        classLoop k (← pushOp .diff u)
      else if c = '~' && next = some '~' then
        let _ ← bumpIf "~~"
        classLoop k (← pushOp .symmDiff u)
      else classLoop k (← parseRange u)

/-- Reads a bracketed class, the reading place at its opening bracket. -/
def parseClass : Read Hir := do
  let set ← classLoop (← budget) (ClassUnion.empty (← here))
  return .chars set

/-- Whether a character can be part of a group name: letters and underscores, and after the
first also digits, dots and brackets. -/
def isNameChar (c : Char) (first : Bool) : Bool :=
  if first then c = '_' || Text.isAlphabetic c
  else c = '_' || c = '.' || c = '[' || c = ']' || Text.isAlphanumeric c

/-- Reads the name of a group and the `>` after it. -/
def parseGroupName : Read Unit := do
  if ← atEnd then fail .groupNameUnexpectedEof (Span.at (← here))
  let start ← here
  let name ← loop start (← budget) []
  let stop ← here
  if ← atEnd then fail .groupNameUnexpectedEof (Span.at (← here))
  let _ ← bump
  if name.isEmpty then fail .groupNameEmpty (Span.at start)
  let text := String.ofList name
  match (← get).names.lookup text with
  | some earlier => throw ⟨.groupNameDuplicate, ⟨start, stop⟩, some earlier⟩
  | none => modify fun s => { s with names := (text, ⟨start, stop⟩) :: s.names }
where
  /-- Reads the characters of the name up to `>`. -/
  loop (start : Position) : Nat → List Char → Read (List Char)
    | 0, acc => pure acc.reverse
    | k + 1, acc => do
      match ← peek with
      | some '>' => pure acc.reverse
      | some c =>
        if !isNameChar c ((← here) == start) then fail .groupNameInvalid (← spanChar)
        if ← bump then loop start k (c :: acc) else pure (c :: acc).reverse
      | none => pure acc.reverse

/-- Reads the flags of a flag group up to the `:` or `)` ending them, each with its span. -/
def parseFlags : Read (List (Span × FlagItem)) := do
  loop (← budget) [] none
where
  /-- Reads the remaining flags; `lastNegation` is the span of a negation just read. -/
  loop : Nat → List (Span × FlagItem) → Option Span → Read (List (Span × FlagItem))
    | 0, items, _ => pure items
    | k + 1, items, lastNegation => do
      match ← peek with
      | none => fail .flagUnexpectedEof (Span.at (← here))
      | some c =>
        if c = ':' || c = ')' then
          match lastNegation with
          | some sp => fail .flagDanglingNegation sp
          | none => return items
        let sp ← spanChar
        let (items, lastNegation) ← if c = '-' then
            match items.find? (·.2 == .negation) with
            | some (earlier, _) => throw ⟨.flagRepeatedNegation, sp, some earlier⟩
            | none => pure (items ++ [(sp, FlagItem.negation)], some sp)
          else
            match Flag.ofChar? c with
            | none => fail .flagUnrecognized sp
            | some f =>
              match items.find? (·.2 == .flag f) with
              | some (earlier, _) => throw ⟨.flagDuplicate, sp, some earlier⟩
              | none => pure (items ++ [(sp, FlagItem.flag f)], none)
        if !(← bump) then fail .flagUnexpectedEof (Span.at (← here))
        loop k items lastNegation

/-- What an opening parenthesis starts. -/
inductive Opening where
  /-- A flag group, changing the rest of the enclosing group. -/
  | flags (items : List FlagItem)
  /-- A group, with the span of its parenthesis and the flags it sets for its contents. -/
  | group (openSpan : Span) (items : List FlagItem)

/-- Reads what an opening parenthesis starts, the reading place at the parenthesis. -/
def parseOpening : Read Opening := do
  let openSpan ← spanChar
  let _ ← bump
  bumpSpace
  for look in ["?=", "?!", "?<=", "?<!"] do
    if ← bumpIf look then failFrom .unsupportedLookAround openSpan.start
  let inner ← here
  if ← bumpIf "?P<" then
    parseGroupName
    return .group openSpan []
  if ← bumpIf "?<" then
    parseGroupName
    return .group openSpan []
  if ← bumpIf "?" then
    if ← atEnd then fail .groupUnclosed openSpan
    let items := (← parseFlags).map (·.2)
    let close ← peek
    let _ ← bump
    if close = some ')' then
      if items.isEmpty then fail .repetitionMissing (Span.at inner)
      return .flags items
    return .group openSpan items
  return .group openSpan []

/-- Reads an opening parenthesis: the sequence to go on with. -/
def pushGroup (seq : List Piece) : Read (List Piece) := do
  match ← parseOpening with
  | .flags items =>
    modify fun s => { s with
      space := (flagState .ignoreSpace false items).getD s.space
      flags := s.flags.update items }
    return seq ++ [.flags]
  | .group openSpan items =>
    modify fun s => { s with
      groups := .group seq openSpan s.space s.flags :: s.groups
      space := (flagState .ignoreSpace false items).getD s.space
      flags := s.flags.update items }
    return []

/-- Reads a closing parenthesis: the sequence around the group, the group added to it. -/
def popGroup (seq : List Piece) : Read (List Piece) := do
  let sp ← spanChar
  let (outer, space, flags, branches, rest) ← match (← get).groups with
    | .group outer _ space flags :: rest => pure (outer, space, flags, [], rest)
    | .alternation bs :: .group outer _ space flags :: rest => pure (outer, space, flags, bs, rest)
    | _ => fail .groupUnopened sp
  modify fun s => { s with groups := rest, space := space, flags := flags }
  let _ ← bump
  return outer ++ [.expr (Hir.alternatives (branches ++ [Piece.sequence seq]))]

/-- Reads a `|`: the sequence ending there becomes an alternative. -/
def pushAlternate (seq : List Piece) : Read (List Piece) := do
  modify fun s => { s with groups := match s.groups with
    | .alternation bs :: rest => .alternation (bs ++ [Piece.sequence seq]) :: rest
    | gs => .alternation [Piece.sequence seq] :: gs }
  let _ ← bump
  return []

/-- Reads `?`, `*` or `+` after an expression: it is repeated `least` times or more, at most
`most` if given. -/
def repeatLast (seq : List Piece) (least : Nat) (most : Option Nat) : Read (List Piece) := do
  match seq.getLast? with
  | some (.expr h) =>
    if ← bump then
      if (← peek) = some '?' then
        let _ ← bump
    return seq.dropLast ++ [.expr (.rep least most h)]
  | _ => fail .repetitionMissing (Span.at (← here))

/-- Reads a counted repetition `{n}`, `{n,}` or `{n,m}` after an expression. -/
def repeatCounted (seq : List Piece) : Read (List Piece) := do
  let start ← here
  let some (.expr h) := seq.getLast? | fail .repetitionMissing (Span.at start)
  if !(← bumpAndSpace) then failFrom .repetitionCountUnclosed start
  let first ← parseDecimal
  if ← atEnd then failFrom .repetitionCountUnclosed start
  let (least, most) ← if (← peek) = some ',' then do
      if !(← bumpAndSpace) then failFrom .repetitionCountUnclosed start
      if (← peek) != some '}' then
        let lo ← ofExcept first
        let hi ← ofExcept (← parseDecimal)
        pure (lo, some hi)
      else pure (← ofExcept first, none)
    else do
      let n ← ofExcept first
      pure (n, some n)
  if (← peek) != some '}' then failFrom .repetitionCountUnclosed start
  if ← bumpAndSpace then
    if (← peek) = some '?' then
      let _ ← bump
  if let some m := most then
    if m < least then failFrom .repetitionCountInvalid start
  return seq.dropLast ++ [.expr (.rep least most h)]

/-- Reads the rest of the pattern, `seq` being the sequence of the innermost open group. -/
def mainLoop : Nat → List Piece → Read (List Piece)
  | 0, seq => pure seq
  | k + 1, seq => do
    bumpSpace
    match ← peek with
    | none => pure seq
    | some c =>
      let seq ← match c with
        | '(' => pushGroup seq
        | ')' => popGroup seq
        | '|' => pushAlternate seq
        | '[' => do pure (seq ++ [.expr (← parseClass)])
        | '?' => repeatLast seq 0 (some 1)
        | '*' => repeatLast seq 0 none
        | '+' => repeatLast seq 1 none
        | '{' => repeatCounted seq
        | _ => do pure (seq ++ [.expr (← parsePrimitive)])
      mainLoop k seq

/-- What the pattern means, once all of it is read: a group left open is an error. -/
def finish (seq : List Piece) : Read Hir := do
  match (← get).groups with
  | [] => return Piece.sequence seq
  | .group _ sp _ _ :: _ => fail .groupUnclosed sp
  | .alternation bs :: rest =>
    match rest with
    | .group _ sp _ _ :: _ => fail .groupUnclosed sp
    | _ => return Hir.alternatives (bs ++ [Piece.sequence seq])

/-- Reads a pattern: what it means, or its first error of syntax, or else of meaning. -/
def parse (pattern : String) : Except SyntaxError Hir :=
  let start : Reader := { rest := pattern.toList, pos := Position.first }
  match (do let seq ← mainLoop (pattern.length + 1) []; finish seq : Read Hir).run start with
  | .ok h s => match s.meaning with
    | some e => .error e
    | none => .ok h
  | .error e _ => .error e

end Pattern

end Scrobbler
