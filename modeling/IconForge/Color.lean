import IconForge.Text.Blank
import IconForge.Text.Hexadecimal

/-!
# Colour literals

A colour is written as six or eight hexadecimal digits, with an optional mark before them and
optional white space around it. Colours are compared in their normal form.
-/

namespace IconForge
namespace Color

def withoutMark : List Char → List Char
  | '#' :: digits => digits
  | '0' :: 'x' :: digits => digits
  | '0' :: 'X' :: digits => digits
  | digits => digits

/-- The normal form of a literal: without surrounding white space and one mark, in upper case. -/
def normalize (literal : String) : String :=
  String.ofList ((withoutMark (Text.trim literal.toList)).map Char.toUpper)

/-- Whether the normal form consists of six or eight hexadecimal digits. -/
def isHex (literal : String) : Bool :=
  let digits := (normalize literal).toList
  (digits.length = 6 || digits.length = 8) && digits.all Text.isHexDigit

end Color
end IconForge
