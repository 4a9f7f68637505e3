import Backlog.Text.CodeRanges
/-!
# Blank characters

White space of every script, the line and paragraph separators and the four
information separators U+001C to U+001F. `strip` drops the blanks at both
ends of a text.
-/

namespace Backlog

namespace Text

/-- The code points of the blank characters. -/
def blanks : CodeRanges :=
  [(0x9, 0xD), (0x1C, 0x20), (0x85, 0x85), (0xA0, 0xA0), (0x1680, 0x1680), (0x2000, 0x200A),
   (0x2028, 0x2029), (0x202F, 0x202F), (0x205F, 0x205F), (0x3000, 0x3000)]

/-- Whether a character is blank. -/
def isBlank (c : Char) : Bool := blanks.contains c

/-- The characters without the blanks at both ends. -/
def stripChars (cs : List Char) : List Char :=
  ((cs.dropWhile isBlank).reverse.dropWhile isBlank).reverse

/-- The text without the blanks at both ends. -/
def strip (s : String) : String := String.ofList (stripChars s.toList)

/-- Whether a text holds a blank. -/
def hasBlank (s : String) : Bool := s.toList.any isBlank

end Text

end Backlog
