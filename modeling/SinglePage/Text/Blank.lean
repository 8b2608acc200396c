/-
White space, and texts that hold nothing else.
-/
import SinglePage.Text.Ranges

namespace SinglePage.Text

/-- The characters with the Unicode property `White_Space`. -/
def blanks : Ranges :=
  [(0x9, 0xd), (0x20, 0x20), (0x85, 0x85), (0xa0, 0xa0), (0x1680, 0x1680), (0x2000, 0x200a),
    (0x2028, 0x2029), (0x202f, 0x202f), (0x205f, 0x205f), (0x3000, 0x3000)]

/-- The character is white space. -/
def isBlankChar (c : Char) : Bool := blanks.has c

/-- The text holds white space at most. -/
def isBlank (s : String) : Bool := s.toList.all isBlankChar

/-- The text without the white space around it. -/
def trim (cs : List Char) : List Char :=
  ((cs.dropWhile isBlankChar).reverse.dropWhile isBlankChar).reverse

end SinglePage.Text
