import IconForge.Text.Separated

/-!
# File paths

Paths are texts whose parts are separated by slashes. Empty parts and single dots that do not begin
a path carry no meaning.
-/

namespace IconForge
namespace FilePath

/-- The path of an entry below a path. An absolute entry replaces the path. -/
def push (path entry : String) : String :=
  if entry.toList.head? = some '/' ∨ path = "" then entry
  else if path.toList.getLast? = some '/' then path ++ entry
  else path ++ "/" ++ entry

/-- The parts of a path that carry meaning, without a single dot at its beginning. -/
def parts (path : String) : List String :=
  ((Text.words (· = '/') path.toList).map String.ofList).filter (· ≠ ".")

/-- The steps of a path: all that stands between its slashes, with or without meaning. -/
def steps (path : String) : List String := (Text.fields (· = '/') path.toList).map String.ofList

def ofSteps : List String → String
  | [""] => "/"
  | steps => "/".intercalate steps

/-- The paths of the entries that are met along some steps, given the steps before them. A step
without meaning ends no path, unless it is the first one. -/
def chainFrom (before : List String) : List String → List String
  | [] => []
  | step :: others =>
    let here := before ++ [step]
    if before ≠ [] ∧ (step = "" ∨ step = ".") then
      chainFrom here others
    else
      ofSteps here :: chainFrom here others

/-- The paths of the entries that are met along a path, the entry at its end last. -/
def chain (path : String) : List String := chainFrom [] (steps path)

/-- The last part of a path, if it names an entry. -/
def fileName? (path : String) : Option String :=
  match (parts path).getLast? with
  | some ".." => none
  | last => last

/-- The stem and the extension of a file name: what stands before and after its last dot. A name
whose only dot is its first character has no extension. -/
def splitExtension (fileName : String) : String × Option String :=
  match Text.splitLast? '.' fileName.toList with
  | none => (fileName, none)
  | some (stem, extension) =>
    if stem = [] ∨ fileName = ".." then (fileName, none)
    else (String.ofList stem, some (String.ofList extension))

end FilePath
end IconForge
