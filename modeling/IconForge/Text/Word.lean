import IconForge.Text.Alphabetic
import IconForge.Text.Numeric

/-!
# Characters of words

Letters and numbers make up words; every other character separates them.
-/

namespace IconForge
namespace Text

def isAlphanumeric (c : Char) : Bool := isAlphabetic c || isNumeric c

end Text
end IconForge
