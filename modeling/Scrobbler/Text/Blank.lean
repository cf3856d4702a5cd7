/-!
# White space

The characters with the Unicode White_Space property, and trimming them from both ends of a
text. The property has 25 code points: the ASCII tab, line feed, vertical tab, form feed,
carriage return and space, the next-line control U+0085, the no-break space, the Ogham space
mark, the eleven spaces U+2000 to U+200A, the line and paragraph separators, the narrow
no-break space, the medium mathematical space and the ideographic space.

## Main statements

* `isBlank_of_isWhitespace`: every character core calls white space is blank.
-/

namespace Scrobbler

namespace Text

/-- The code points of the White_Space property. -/
def blankCodes : List Nat :=
  [0x09, 0x0A, 0x0B, 0x0C, 0x0D, 0x20, 0x85, 0xA0, 0x1680,
   0x2000, 0x2001, 0x2002, 0x2003, 0x2004, 0x2005, 0x2006, 0x2007, 0x2008, 0x2009, 0x200A,
   0x2028, 0x2029, 0x202F, 0x205F, 0x3000]

/-- Whether a character has the White_Space property. -/
def isBlank (c : Char) : Bool := blankCodes.contains c.toNat

/-- A text without its leading and trailing blanks. -/
def trimBlank (cs : List Char) : List Char :=
  ((cs.dropWhile isBlank).reverse.dropWhile isBlank).reverse

example : blankCodes.length = 25 := rfl

theorem isBlank_of_isWhitespace {c : Char} (h : c.isWhitespace = true) : isBlank c = true := by
  simp only [Char.isWhitespace, Bool.or_eq_true, decide_eq_true_eq] at h
  simp only [isBlank, blankCodes]
  rcases h with ((h | h) | h) | h <;> subst h <;> decide

end Text

end Scrobbler
