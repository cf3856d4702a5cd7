import Scrobbler.Text.Printable

/-!
# Debug rendering of text

The debug rendering of a text puts it between double quotes and escapes what could not be
read back or seen: the quote and the backslash, NUL, tab, carriage return and line feed by a
backslash and a letter (`\0`, `\t`, `\r`, `\n`), and every other character that is not
printable, or that extends the grapheme before it, as `\u{…}` with its code point in
lower-case hexadecimal without leading zeros. Every other character, non-ASCII ones
included, stands as it is. The single quote is not escaped.
-/

namespace Scrobbler

namespace Text

/-- The lower-case hexadecimal digits of a natural number, without leading zeros. -/
def hexDigits (n : Nat) : List Char :=
  (Nat.toDigits 16 n)

/-- The escape `\u{…}` of a character. -/
def unicodeEscape (c : Char) : List Char :=
  ['\\', 'u', '{'] ++ hexDigits c.toNat ++ ['}']

/-- How one character is written inside the quotes of a debug rendering. -/
def debugEscape (c : Char) : List Char :=
  if c = '\x00' then ['\\', '0']
  else if c = '\t' then ['\\', 't']
  else if c = '\r' then ['\\', 'r']
  else if c = '\n' then ['\\', 'n']
  else if c = '\\' then ['\\', '\\']
  else if c = '"' then ['\\', '"']
  else if isGraphemeExtend c || !isPrintable c then unicodeEscape c
  else [c]

/-- The debug rendering of a text: quoted, with escapes. -/
def debugQuote (s : String) : String :=
  String.ofList ('"' :: s.toList.flatMap debugEscape ++ ['"'])

end Text

end Scrobbler
