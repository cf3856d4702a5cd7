import Scrobbler.Text.Lines

/-!
# Errors in a pattern

A pattern that cannot be used is reported with the part of it at fault: the text of the
pattern is shown with carets under that part, followed by what is wrong. Places are counted
as an editor counts them, lines and columns from one, a column being a character; a part is a
span from one place up to, not including, another, and an empty span is marked by one caret.
A pattern of several lines is shown with its lines numbered between two rules of tildes.
-/

namespace Scrobbler

namespace Pattern

/-- A place in a pattern. -/
structure Position where
  /-- How many bytes of UTF-8 come before it. -/
  offset : Nat
  /-- Its line, counted from one. -/
  line : Nat
  /-- Its column on the line, in characters, counted from one. -/
  column : Nat
  deriving DecidableEq, Repr

/-- The place at the start of a pattern. -/
def Position.first : Position := ⟨0, 1, 1⟩

/-- The place after a character. -/
def Position.next (p : Position) (c : Char) : Position :=
  if c = '\n' then ⟨p.offset + c.utf8Size, p.line + 1, 1⟩
  else ⟨p.offset + c.utf8Size, p.line, p.column + 1⟩

/-- The part of a pattern from one place up to, not including, another. -/
structure Span where
  /-- Where it starts. -/
  start : Position
  /-- Where it stops. -/
  stop : Position
  deriving DecidableEq, Repr

/-- The empty span at a place. -/
def Span.at (p : Position) : Span := ⟨p, p⟩

/-- What is wrong with a pattern. -/
inductive ErrorKind where
  /-- An escape in a class that stands for no character or class. -/
  | classEscapeInvalid
  /-- A range of a class whose start is after its end. -/
  | classRangeInvalid
  /-- A range of a class with an end that is not one character. -/
  | classRangeLiteral
  /-- A class that is not closed. -/
  | classUnclosed
  /-- A number too large. -/
  | decimalInvalid
  /-- Braces holding no hexadecimal digit. -/
  | escapeHexEmpty
  /-- A hexadecimal code that is not a character. -/
  | escapeHexInvalid
  /-- A character that is not a hexadecimal digit. -/
  | escapeHexInvalidDigit
  /-- An escape cut short by the end of the pattern. -/
  | escapeUnexpectedEof
  /-- An escape that means nothing. -/
  | escapeUnrecognized
  /-- A flag negation with no flag after it. -/
  | flagDanglingNegation
  /-- A flag given twice. -/
  | flagDuplicate
  /-- A second flag negation. -/
  | flagRepeatedNegation
  /-- Flags cut short by the end of the pattern. -/
  | flagUnexpectedEof
  /-- A character that is not a flag. -/
  | flagUnrecognized
  /-- A group name used twice. -/
  | groupNameDuplicate
  /-- An empty group name. -/
  | groupNameEmpty
  /-- A character that cannot be part of a group name. -/
  | groupNameInvalid
  /-- A group name cut short by the end of the pattern. -/
  | groupNameUnexpectedEof
  /-- A group that is not closed. -/
  | groupUnclosed
  /-- A closing parenthesis with no group open. -/
  | groupUnopened
  /-- A counted repetition whose least count is above its greatest. -/
  | repetitionCountInvalid
  /-- A counted repetition without a number where one is due. -/
  | repetitionCountDecimalEmpty
  /-- A counted repetition that is not closed. -/
  | repetitionCountUnclosed
  /-- A repetition with nothing before it. -/
  | repetitionMissing
  /-- A word boundary name that is not closed or holds a character it cannot. -/
  | specialWordBoundaryUnclosed
  /-- A word boundary name that is not known. -/
  | specialWordBoundaryUnrecognized
  /-- A brace after a word boundary that is never closed. -/
  | specialWordOrRepetitionUnexpectedEof
  /-- A character class name that cannot be read. -/
  | unicodeClassInvalid
  /-- A reference to a group. -/
  | unsupportedBackreference
  /-- A look-ahead or look-behind. -/
  | unsupportedLookAround
  /-- A character beyond ASCII where only bytes are matched. -/
  | unicodeNotAllowed
  /-- A part that could match bytes that are not UTF-8. -/
  | invalidUtf8
  /-- A Unicode property class: no property tables are known. -/
  | unicodePropertyNotFound
  /-- A Unicode class of digits, spaces or word characters: no such tables are known. -/
  | unicodePerlClassNotFound
  /-- Case folding beyond ASCII: no case tables are known. -/
  | unicodeCaseUnavailable
  deriving DecidableEq, Repr

/-- What an error says. -/
def ErrorKind.message : ErrorKind → String
  | .classEscapeInvalid => "invalid escape sequence found in character class"
  | .classRangeInvalid => "invalid character class range, the start must be <= the end"
  | .classRangeLiteral => "invalid range boundary, must be a literal"
  | .classUnclosed => "unclosed character class"
  | .decimalInvalid => "decimal literal invalid"
  | .escapeHexEmpty => "hexadecimal literal empty"
  | .escapeHexInvalid => "hexadecimal literal is not a Unicode scalar value"
  | .escapeHexInvalidDigit => "invalid hexadecimal digit"
  | .escapeUnexpectedEof => "incomplete escape sequence, reached end of pattern prematurely"
  | .escapeUnrecognized => "unrecognized escape sequence"
  | .flagDanglingNegation => "dangling flag negation operator"
  | .flagDuplicate => "duplicate flag"
  | .flagRepeatedNegation => "flag negation operator repeated"
  | .flagUnexpectedEof => "expected flag but got end of regex"
  | .flagUnrecognized => "unrecognized flag"
  | .groupNameDuplicate => "duplicate capture group name"
  | .groupNameEmpty => "empty capture group name"
  | .groupNameInvalid => "invalid capture group character"
  | .groupNameUnexpectedEof => "unclosed capture group name"
  | .groupUnclosed => "unclosed group"
  | .groupUnopened => "unopened group"
  | .repetitionCountInvalid => "invalid repetition count range, the start must be <= the end"
  | .repetitionCountDecimalEmpty => "repetition quantifier expects a valid decimal"
  | .repetitionCountUnclosed => "unclosed counted repetition"
  | .repetitionMissing => "repetition operator missing expression"
  | .specialWordBoundaryUnclosed =>
    "special word boundary assertion is either unclosed or contains an invalid character"
  | .specialWordBoundaryUnrecognized =>
    "unrecognized special word boundary assertion, valid choices are: start, end, start-half or end-half"
  | .specialWordOrRepetitionUnexpectedEof =>
    "found either the beginning of a special word boundary or a bounded repetition on a \\b " ++
      "with an opening brace, but no closing brace"
  | .unicodeClassInvalid => "invalid Unicode character class"
  | .unsupportedBackreference => "backreferences are not supported"
  | .unsupportedLookAround =>
    "look-around, including look-ahead and look-behind, is not supported"
  | .unicodeNotAllowed => "Unicode not allowed here"
  | .invalidUtf8 => "pattern can match invalid UTF-8"
  | .unicodePropertyNotFound => "Unicode property not found"
  | .unicodePerlClassNotFound =>
    "Unicode-aware Perl class not found (make sure the unicode-perl feature is enabled)"
  | .unicodeCaseUnavailable =>
    "Unicode-aware case insensitivity matching is not available " ++
      "(make sure the unicode-case feature is enabled)"

/-- An error in a pattern: what is wrong, where, and where the earlier part it clashes with
is, if any. -/
structure SyntaxError where
  /-- What is wrong. -/
  kind : ErrorKind
  /-- The part at fault. -/
  span : Span
  /-- The earlier part a repeated one clashes with. -/
  earlier : Option Span := none
  deriving DecidableEq, Repr

/-- Whether one span comes before another: by where they start, then where they stop. -/
def Span.before (a b : Span) : Bool :=
  a.start.offset < b.start.offset ||
    (a.start.offset == b.start.offset && a.stop.offset ≤ b.stop.offset)

/-- A number written with spaces before it to fill `width` characters. -/
def padLeft (width n : Nat) : String :=
  let s := toString n
  String.ofList (List.replicate (width - s.length) ' ') ++ s

/-- The carets under the spans of one line, after `indent` spaces; the spans are in order. -/
def caretLine (indent : Nat) (spans : List Span) : String :=
  let (line, _) := spans.foldl
    (fun (acc : List Char × Nat) (s : Span) =>
      let gap := s.start.column - 1 - acc.2
      let marks := max 1 (s.stop.column - s.start.column)
      (acc.1 ++ List.replicate gap ' ' ++ List.replicate marks '^', acc.2 + gap + marks))
    (List.replicate indent ' ', 0)
  String.ofList line

/-- The lines of a pattern, each with the carets under the spans on it. -/
def notate (lines : List String) (width : Nat) (spans : List Span) : String :=
  let indent := if width = 0 then 4 else 2 + width
  String.join <| lines.zipIdx.map fun (l, i) =>
    let head := if width = 0 then "    " else padLeft width (i + 1) ++ ": "
    let here := spans.filter (·.start.line == i + 1)
    head ++ l ++ "\n" ++ (if here.isEmpty then "" else caretLine indent here ++ "\n")

/-- The text of an error in a pattern. -/
def SyntaxError.render (pattern : String) (e : SyntaxError) : String :=
  let lines := (Text.lines pattern.toList).map String.ofList
  let count := lines.length + (if pattern.endsWith "\n" then 1 else 0)
  let width := if count ≤ 1 then 0 else (toString count).length
  let spans := match e.earlier with
    | some a => if a.before e.span then [a, e.span] else [e.span, a]
    | none => [e.span]
  let oneLine := spans.filter fun s => s.start.line == s.stop.line
  let several := spans.filter fun s => s.start.line != s.stop.line
  let body := notate lines width oneLine
  if pattern.contains '\n' then
    let rule := String.ofList (List.replicate 79 '~')
    let notes := several.map fun s =>
      "on line " ++ toString s.start.line ++ " (column " ++ toString s.start.column ++
        ") through line " ++ toString s.stop.line ++ " (column " ++
        toString (s.stop.column - 1) ++ ")"
    "regex parse error:\n" ++ rule ++ "\n" ++ body ++ rule ++ "\n" ++
      (if notes.isEmpty then "" else "\n".intercalate notes ++ "\n") ++
      "error: " ++ e.kind.message
  else "regex parse error:\n" ++ body ++ "error: " ++ e.kind.message

end Pattern

end Scrobbler
