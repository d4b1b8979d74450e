/-!
# Classes of characters

A class is a list of closed ranges of code points.
-/

namespace IconForge
namespace Text

abbrev CodePointRanges := List (Nat × Nat)

/-- Whether the code point of a character lies in one of the ranges. -/
def CodePointRanges.contains (ranges : CodePointRanges) (c : Char) : Bool :=
  List.any ranges fun range => range.1 ≤ c.toNat && c.toNat ≤ range.2

end Text
end IconForge
