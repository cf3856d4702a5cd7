/-!
# Lines of a text

A text is cut into lines at every line feed. A line feed ends the line before it, so a text
that ends with one has no empty line after it, and the empty text has no lines at all. One
carriage return right before a line feed belongs to the line ending and is dropped; a carriage
return anywhere else stays in its line, also at the very end of a text without a final line
feed.
-/

namespace Scrobbler

namespace Text

/-- A line without the carriage return of a `\r\n` ending. -/
def dropReturn (line : List Char) : List Char :=
  if line.getLast? = some '\r' then line.dropLast else line

/-- The lines of a text: the pieces between line feeds, each without the carriage return of
its line ending, and without the empty piece after a final line feed. -/
def lines (cs : List Char) : List (List Char) :=
  let pieces := cs.splitOn '\n'
  let last := pieces.getLastD []
  pieces.dropLast.map dropReturn ++ (if last.isEmpty then [] else [last])

example : lines "a\r\nb\n".toList = ["a".toList, "b".toList] := by decide
example : lines "".toList = [] := by decide
example : lines "\n\n".toList = [[], []] := by decide
example : lines "a\rb\r".toList = ["a\rb\r".toList] := by decide

end Text

end Scrobbler
