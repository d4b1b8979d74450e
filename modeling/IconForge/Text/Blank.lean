import IconForge.Text.CharClass

/-!
# White space

The characters with the Unicode property `White_Space`, and trimming by it. The byte order mark
and the zero-width space are not in the class.
-/

namespace IconForge
namespace Text

/-- The code points with the property `White_Space`. -/
def whiteSpace : CodePointRanges := [
  (0x0009, 0x000D), (0x0020, 0x0020), (0x0085, 0x0085), (0x00A0, 0x00A0), (0x1680, 0x1680),
  (0x2000, 0x200A), (0x2028, 0x2029), (0x202F, 0x202F), (0x205F, 0x205F), (0x3000, 0x3000)]

/-- Whether a character counts as white space around a colour or at the end of a line. -/
def isBlank (c : Char) : Bool := whiteSpace.contains c

/-- A text without the white space at its two ends. -/
def trim (text : List Char) : List Char :=
  ((text.dropWhile isBlank).reverse.dropWhile isBlank).reverse

def trimEnd (text : List Char) : List Char :=
  (text.reverse.dropWhile isBlank).reverse

end Text
end IconForge
