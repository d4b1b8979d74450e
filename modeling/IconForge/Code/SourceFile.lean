import IconForge.Code.Render
import IconForge.FilePath

/-!
# Source files

A source file is a package, its imports and a body. The symbols of the body enter the import table
in the order of their first use, after the names that the file has taken already.
-/

namespace IconForge

structure SourceFile where
  package : String
  /-- The name of the file without its extension. -/
  fileName : String
  contents : String
  deriving DecidableEq

namespace SourceFile

/-- The directory of a package below a source root: one level for each segment that is not
empty. -/
def packageDirectory (package : String) : String :=
  ((Text.words (· = '.') package.toList).map String.ofList).foldl FilePath.push ""

def path (file : SourceFile) : String :=
  FilePath.push (packageDirectory file.package) (file.fileName ++ ".kt")

/-- The import table of a file, after every symbol of its body has been referred to. -/
def importsOf (imports : ImportTable) (body : CodeBlock) : ImportTable :=
  body.symbols.foldl (fun table symbol => (table.reference symbol).2) imports

def contentsOf (imports : ImportTable) (indent : String) (body : CodeBlock) : String :=
  let header := if imports.package.isEmpty then "" else "package " ++ imports.package ++ "\n\n"
  let importLines :=
    match imports.lines with
    | [] => ""
    | lines => String.join (lines.map (· ++ "\n")) ++ "\n"
  header ++ importLines ++ body.render imports indent

/-- The file with some members, given an import table that holds the names taken before. -/
def ofMembers (taken : ImportTable) (fileName indent : String) (members : List CodeBlock) :
    SourceFile :=
  let body := CodeBlock.joinMembers members
  ⟨taken.package, fileName, contentsOf (importsOf taken body) indent body⟩

end SourceFile
end IconForge
