/-!
# Separated texts

Texts as lists of characters: cutting at a separator, and searching for a part.
-/

namespace IconForge
namespace Text

/-- The fields between the separators; a text without a separator is one field. -/
def fields (isSeparator : Char → Bool) : List Char → List (List Char)
  | [] => [[]]
  | c :: rest =>
    if isSeparator c then
      [] :: fields isSeparator rest
    else
      match fields isSeparator rest with
      | [] => [[c]]
      | field :: others => (c :: field) :: others

def words (isSeparator : Char → Bool) (text : List Char) : List (List Char) :=
  (fields isSeparator text).filter (· ≠ [])

/-- The parts before and after the last separator. -/
def splitLast? (separator : Char) : List Char → Option (List Char × List Char)
  | [] => none
  | c :: rest =>
    match splitLast? separator rest with
    | some (before, after) => some (c :: before, after)
    | none => if c = separator then some ([], rest) else none

def hasPart (part : List Char) : List Char → Bool
  | [] => part.isEmpty
  | c :: rest => part.isPrefixOf (c :: rest) || hasPart part rest

end Text
end IconForge
