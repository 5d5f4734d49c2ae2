import LongSuffix.Text.CodePoints

/-!
# White space

The characters with the Unicode property `White_Space`, and text with white space removed from
both ends.
-/

namespace LongSuffix.Text

def whiteSpace : CodePoints :=
  [(0x9, 0xd), (0x20, 0x20), (0x85, 0x85), (0xa0, 0xa0), (0x1680, 0x1680), (0x2000, 0x200a),
   (0x2028, 0x2029), (0x202f, 0x202f), (0x205f, 0x205f), (0x3000, 0x3000)]

def isBlank (c : Char) : Bool := whiteSpace.has c

/-- The text without the white space at its front. -/
def trimLeft (s : List Char) : List Char := s.dropWhile isBlank

/-- The text without the white space at its back. -/
def trimRight (s : List Char) : List Char := (s.reverse.dropWhile isBlank).reverse

def trim (s : List Char) : List Char := trimRight (trimLeft s)

end LongSuffix.Text
