import IconForge.Symbol

/-!
# Import tables

A table decides how the symbols of one file are spelled. Every simple name that is visible in the
file has one owner. Names chosen by the user keep their simple name; any other symbol whose name is
taken is imported under an alias.
-/

namespace IconForge

inductive NameConflict where
  | declaredTwice
  | referencedBefore
  | declaredAndReferenced (path : String)
  | twoOwners (first second : String)
  | usedAsAlias
  | generatedTwice (package : String)
  deriving DecidableEq

def NameConflict.message : NameConflict → String
  | declaredTwice => "is declared twice in the same file"
  | referencedBefore => "clashes with a referenced declaration"
  | declaredAndReferenced path => "is declared in this file and also referenced as " ++ path
  | twoOwners first second => "refers to both " ++ first ++ " and " ++ second
  | usedAsAlias => "is already used as an import alias"
  | generatedTwice package => "is generated twice in " ++ package

structure NameCollision where
  name : String
  conflict : NameConflict
  deriving DecidableEq

def NameCollision.message (e : NameCollision) : String :=
  "name collision: '" ++ e.name ++ "' " ++ e.conflict.message

/-- To what a simple name belongs. -/
inductive NameOwner where
  /-- To a declaration of the file. -/
  | declared
  /-- To the declaration with an import path. -/
  | imported (path : String)
  deriving DecidableEq

structure ImportTable where
  /-- The package of the file. -/
  package : String
  /-- The owner of each simple name. -/
  owners : List (String × NameOwner)
  /-- The alias of each import path that has one. -/
  aliases : List (String × String)
  /-- The import paths of extensions. -/
  extensions : List String
  deriving DecidableEq

namespace ImportTable

/-- What precedes the name in the alias of a symbol of the drawing library. -/
def libraryMarker : String := "____"

/-- What precedes the name in the alias of a symbol that the user named. -/
def authorMarker : String := "___"

def empty (package : String) : ImportTable := ⟨package, [], [], []⟩

variable (table : ImportTable)

def owner? (name : String) : Option NameOwner := table.owners.lookup name

def alias? (path : String) : Option String := table.aliases.lookup path

/-- Every simple name that is visible in the file. -/
def visibleNames : List String := table.owners.map Prod.fst ++ table.aliases.map Prod.snd

def isVisible (name : String) : Bool := table.visibleNames.contains name

def own (name : String) (owner : NameOwner) : ImportTable :=
  { table with owners := (name, owner) :: table.owners }

def declare (name : String) : Except NameCollision ImportTable :=
  match table.owner? name with
  | some .declared => .error ⟨name, .declaredTwice⟩
  | some (.imported _) => .error ⟨name, .referencedBefore⟩
  | none =>
    if table.isVisible name then
      .error ⟨name, .referencedBefore⟩
    else
      .ok (table.own name .declared)

/-- Takes the simple name of a symbol that the user named. -/
def adopt (symbol : Symbol) : Except NameCollision ImportTable :=
  let name := symbol.importName
  let path := symbol.importPath
  match table.owner? name with
  | some (.imported other) =>
    if other = path then .ok table else .error ⟨name, .twoOwners other path⟩
  | some .declared => .error ⟨name, .declaredAndReferenced path⟩
  | none =>
    if table.isVisible name then
      .error ⟨name, .usedAsAlias⟩
    else
      .ok (table.own name (.imported path))

/-- The candidate itself if it is not taken, or else with the fewest underscores before it that
make it free. -/
def freeAlias (taken : List String) (candidate : String) : String :=
  if candidate ∈ taken then freeAlias (taken.erase candidate) ("_" ++ candidate) else candidate
termination_by taken.length
decreasing_by
  rw [List.length_erase_of_mem ‹_›]
  exact Nat.sub_one_lt_of_lt (List.length_pos_of_mem ‹_›)

/-- Refers to a symbol by an alias: the one that it has, or a new one that begins with the
marker. -/
def assignAlias (symbol : Symbol) (marker : String) : String × ImportTable :=
  match table.alias? symbol.importPath with
  | some name => (name, table)
  | none =>
    let name := freeAlias table.visibleNames.reverse (marker ++ symbol.importName)
    (name, { table with aliases := (symbol.importPath, name) :: table.aliases })

/-- Refers to a symbol by its simple name, or by an alias if that name belongs to something
else. The answer is the name that stands for its import path. -/
def reference (symbol : Symbol) : String × ImportTable :=
  if symbol.isExtension then
    (symbol.name, { table with extensions := symbol.importPath :: table.extensions })
  else
    match table.alias? symbol.importPath with
    | some name => (name, table)
    | none =>
      match table.owner? symbol.importName with
      | some (.imported path) =>
        if path = symbol.importPath then (symbol.importName, table)
        else table.assignAlias symbol libraryMarker
      | some .declared => table.assignAlias symbol libraryMarker
      | none =>
        if table.isVisible symbol.importName then
          table.assignAlias symbol libraryMarker
        else
          (symbol.importName, table.own symbol.importName (.imported symbol.importPath))

/-- How a symbol is spelled in the file. One that was never referred to is spelled by its simple
name. -/
def spelling (symbol : Symbol) : String :=
  if symbol.isExtension then
    symbol.name
  else
    let head := (table.alias? symbol.importPath).getD symbol.importName
    match symbol.enclosing with
    | some _ => head ++ "." ++ symbol.name
    | none => head

/-- Whether the declaration with an import path lies in another package than the file. One without
a package needs no import. -/
def isElsewhere (path : String) : Bool :=
  match Text.splitLast? '.' path.toList with
  | some (package, _) => String.ofList package ≠ table.package
  | none => false

def importLine (path : String) : String := "import " ++ path

def aliasLine (path name : String) : String := "import " ++ path ++ " as " ++ name

/-- The import path of an owner that has to be imported. -/
def ownerPath? : NameOwner → Option String
  | .imported path => if table.isElsewhere path then some path else none
  | .declared => none

/-- The import lines of the file, sorted, each once. -/
def lines : List String :=
  let byName := table.owners.filterMap fun entry => table.ownerPath? entry.2
  let byExtension := table.extensions.filter table.isElsewhere
  let byAlias := table.aliases.map fun entry => aliasLine entry.1 entry.2
  ((byName.map importLine ++ byAlias ++ byExtension.map importLine).eraseDups).mergeSort
    fun first second => decide (first ≤ second)

end ImportTable
end IconForge
