import Scrobbler.Pattern.CharSet

/-!
# What a pattern means

A pattern is read into an expression over sets of characters: a set matches one character
in it; a condition on the place between two characters matches no character when it holds;
and expressions are joined in sequence, as alternatives, and repeated between a least and an
optional greatest number of times. Groups leave no trace here: they only scope alternation
and flags.

The flags change how the rest of a group is read: case-insensitive letters, `^` and `$` at
line ends, `.` matching line ends, carriage returns as line ends, and whether classes and
word boundaries speak of Unicode or of ASCII.
-/

namespace Scrobbler

namespace Pattern

/-- A condition on the place between two characters. -/
inductive Look where
  /-- The start of the text. -/
  | start
  /-- The end of the text. -/
  | stop
  /-- The start of a line, lines ending at a line feed. -/
  | startLine
  /-- The end of a line, lines ending at a line feed. -/
  | endLine
  /-- The start of a line, lines ending at a line feed, a carriage return, or both. -/
  | startLineCrlf
  /-- The end of a line, lines ending at a line feed, a carriage return, or both. -/
  | endLineCrlf
  /-- A word character on one side only, ASCII word characters. -/
  | wordAscii
  /-- Word characters on both sides or on neither, ASCII word characters. -/
  | notWordAscii
  /-- A word character after and none before, ASCII word characters. -/
  | wordStartAscii
  /-- A word character before and none after, ASCII word characters. -/
  | wordEndAscii
  /-- No word character before, ASCII word characters. -/
  | wordStartHalfAscii
  /-- No word character after, ASCII word characters. -/
  | wordEndHalfAscii
  /-- Any word condition over Unicode word characters, which no table here describes. -/
  | wordUnicode
  deriving DecidableEq, Repr

/-- Whether there is an ASCII word character (a letter, a digit or an underscore). -/
def isWordChar : Option Char → Bool
  | some c => c.isAlphanum || c = '_'
  | none => false

/-- Whether a condition holds between the character before and the one after, `none` at the
ends of the text. -/
def Look.holds (l : Look) (before after : Option Char) : Bool :=
  match l with
  | .start => before.isNone
  | .stop => after.isNone
  | .startLine => before.isNone || before = some '\n'
  | .endLine => after.isNone || after = some '\n'
  | .startLineCrlf =>
    before.isNone || before = some '\n' || (before = some '\r' && after != some '\n')
  | .endLineCrlf =>
    after.isNone || after = some '\r' || (after = some '\n' && before != some '\r')
  | .wordAscii => isWordChar before != isWordChar after
  | .notWordAscii => isWordChar before == isWordChar after
  | .wordStartAscii => !isWordChar before && isWordChar after
  | .wordEndAscii => isWordChar before && !isWordChar after
  | .wordStartHalfAscii => !isWordChar before
  | .wordEndHalfAscii => !isWordChar after
  | .wordUnicode => false

/-- What a pattern means. -/
inductive Hir where
  /-- Matches the empty text. -/
  | empty
  /-- Matches one character of a set. -/
  | chars (set : CharSet)
  /-- Matches the empty text where a condition holds. -/
  | look (l : Look)
  /-- Matches `least` or more matches of `body` in sequence, at most `most` if given. -/
  | rep (least : Nat) (most : Option Nat) (body : Hir)
  /-- Matches a match of `first` followed by a match of `second`. -/
  | cat (first second : Hir)
  /-- Matches what either side matches. -/
  | alt (left right : Hir)
  deriving DecidableEq, Repr

namespace Hir

/-- Expressions in sequence. -/
def sequence : List Hir → Hir
  | [] => .empty
  | [h] => h
  | h :: rest => .cat h (sequence rest)

/-- Expressions as alternatives. -/
def alternatives : List Hir → Hir
  | [] => .empty
  | [h] => h
  | h :: rest => .alt h (alternatives rest)

/-- Whether an expression uses a word condition over Unicode word characters. -/
def usesUnicodeWord : Hir → Bool
  | .empty => false
  | .chars _ => false
  | .look l => l == .wordUnicode
  | .rep _ _ body => body.usesUnicodeWord
  | .cat a b => a.usesUnicodeWord || b.usesUnicodeWord
  | .alt a b => a.usesUnicodeWord || b.usesUnicodeWord

/-- The number of automaton states an expression is built into: one per character set,
condition and alternation, its body's for each copy of a repetition, and one more per
optional copy or loop. -/
def size : Hir → Nat
  | .empty => 0
  | .chars _ => 1
  | .look _ => 1
  | .rep least most body =>
    match most with
    | some m => least * body.size + (m - least) * (body.size + 1)
    | none => least * body.size + body.size + 1
  | .cat a b => a.size + b.size
  | .alt a b => a.size + b.size + 1

end Hir

/-- The flags in force while a pattern is read. -/
structure Flags where
  /-- Letters match either case. -/
  caseless : Bool := false
  /-- `^` and `$` match at line ends too. -/
  multiLine : Bool := false
  /-- `.` matches line ends too. -/
  dotAll : Bool := false
  /-- Classes, case and word boundaries speak of Unicode, not of ASCII. -/
  unicode : Bool := true
  /-- A carriage return ends a line as well as a line feed. -/
  crlf : Bool := false
  deriving DecidableEq, Repr

end Pattern

end Scrobbler
