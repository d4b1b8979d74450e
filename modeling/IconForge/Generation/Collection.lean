import IconForge.Code.SourceFile
import IconForge.CodeStyle
import IconForge.DrawingLibrary
import IconForge.Generation.LazyProperty
import IconForge.Generation.UsedNames

/-!
# Collections of a group

The collection of a group is a property that joins the collections of its child groups, in their
order, and the list of its own icons. Names chosen by the user are never changed: an icon named like
the class of the group is referred to by an alias, and so is a child class whose simple name is
taken.
-/

namespace IconForge

structure GroupCollection where
  /-- The property that the parent group refers to. -/
  handle : Symbol
  slot : String
  file : SourceFile
  deriving DecidableEq

namespace GroupCollection

def takeIcons (container : Symbol) :
    (seen : List String) → List Symbol → ImportTable → Except NameCollision ImportTable
  | _, [], table => .ok table
  | seen, icon :: others, table =>
    if icon.name ∈ seen then
      .error ⟨icon.name, .generatedTwice container.package⟩
    else if icon.name = container.name then
      takeIcons container (icon.name :: seen) others
        (table.assignAlias icon ImportTable.authorMarker).2
    else do
      takeIcons container (icon.name :: seen) others (← table.adopt icon)

/-- Takes the name of a child class, or gives it an alias. -/
def takeChild (table : ImportTable) (child : Symbol) : ImportTable :=
  match table.adopt child with
  | .ok adopted => adopted
  | .error _ => (table.assignAlias child ImportTable.authorMarker).2

/-- The names that the file of a collection takes. -/
def takenNames (container : Symbol) (collection slot : String) (icons children : List Symbol) :
    Except NameCollision ImportTable := do
  let table ← (ImportTable.empty container.package).declare collection
  let table ← table.declare slot
  let table ← table.adopt container
  let table ← takeIcons container [] icons table
  return children.foldl takeChild table

def listType (style : CodeStyle) : Template :=
  .typeName DrawingLibrary.list ++ .ofText "<" ++ .typeName style.iconType ++ .ofText ">"

def childTerm (collection : String) (child : Symbol) : Template :=
  .typeName child ++ .ofText "." ++ .member (.extension child.package collection)

def iconTerm (icons : List Symbol) : Template :=
  .member DrawingLibrary.listOf ++ .ofText "(" ++ .join ", " (icons.map Template.member) ++
    .ofText ")"

/-- The collections of the children, then the icons. -/
def initialValue (collection : String) (icons children : List Symbol) : Template :=
  .join " + " (children.map (childTerm collection) ++ [iconTerm icons])

def members (container : Symbol) (collection slot : String) (style : CodeStyle)
    (icons children : List Symbol) : List CodeBlock :=
  let head : Template := .ofText "public val " ++ .typeName container ++ .ofText "." ++
    .name collection ++ .ofText ": " ++ listType style
  [LazyProperty.slotDeclaration slot (listType style),
    [.statement head, .indent] ++
      LazyProperty.getter slot (some style.composable) (initialValue collection icons children) ++
      [.unindent]]

def slotStem (collection : String) : String := "__" ++ collection

/-- The collection of a group class over its icons and the classes of its child groups, and the
names in use afterwards. -/
def build (container : Symbol) (collection : String) (style : CodeStyle)
    (icons children : List Symbol) (names : UsedNames) :
    Except NameCollision (GroupCollection × UsedNames) := do
  let (slot, names) := names.allocate (slotStem collection)
  let taken ← takenNames container collection slot icons children
  let file := SourceFile.ofMembers taken collection style.indent
    (members container collection slot style icons children)
  return (⟨.extension container.package collection, slot, file⟩, names)

end GroupCollection
end IconForge
