import IconForge.Text.Lowercase
import IconForge.Text.Separated
import IconForge.Text.Uppercase
import IconForge.Text.Word

/-!
# Names made from file names
-/

namespace IconForge

/-- A text with its first character in upper case. -/
def capitalize : List Char → List Char
  | [] => []
  | first :: others => Text.toUppercase first ++ others

/-- The name of the icon of a file with a given stem. -/
def nameOfStem (stem : String) : String :=
  String.ofList ((capitalize stem.toList).map fun c => if c = '@' ∨ c = '-' then '_' else c)

/-- The name of the class of a directory: its words, each capitalized. -/
def classOfDirectory (directory : String) : String :=
  String.ofList ((Text.words (! Text.isAlphanumeric ·) directory.toList).flatMap capitalize)

/-- The segment that a directory adds to the package: its letters and numbers in lower case. -/
def segmentOfDirectory (directory : String) : String :=
  String.ofList ((directory.toList.filter Text.isAlphanumeric).flatMap Text.toLowercase)

end IconForge
