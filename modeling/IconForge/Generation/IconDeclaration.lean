import IconForge.Code.SourceFile
import IconForge.DrawingCode.Drawing
import IconForge.Generation.Failure
import IconForge.Generation.LazyProperty
import IconForge.Generation.UsedNames

/-!
# Icon declarations

An icon is declared by a public property that extends the class of its group, a private slot, and a
private function that builds its image. The slots of one run are allocated together, because private
names of different files of a package compete with each other.
-/

namespace IconForge

structure IconDeclaration where
  publicName : String
  slot : String
  builderName : String
  /-- The body of the builder function. -/
  body : CodeBlock
  deriving DecidableEq

namespace IconDeclaration

/-- The declaration of an icon whose slot has been allocated. -/
def build (context : CodeContext) (name : String) (drawing : VectorDrawing) (slot : String) :
    Except CodeError IconDeclaration := do
  let body ← DrawingCode.drawingBlock context name drawing
  return ⟨name, slot, name ++ context.style.builderSuffix, body⟩

/-- Reserves the name of an icon and allocates its slot before its declaration is built. -/
def declare (context : CodeContext) (name : String) (drawing : VectorDrawing) (names : UsedNames) :
    Except CodeError IconDeclaration × UsedNames :=
  let (slot, names) := (names.reserve name).allocateSlot name
  (build context name drawing slot, names)

/-- The symbol by which other files refer to the icon. -/
def handle (declaration : IconDeclaration) (package : String) : Symbol :=
  .topLevel package declaration.publicName

/-- The names that the file of the icon takes: those it declares, and the class it extends, by an
alias if its simple name is taken. -/
def takenNames (declaration : IconDeclaration) (package : String) (groupClass : Symbol) :
    Except NameCollision ImportTable := do
  let table ← (ImportTable.empty package).declare declaration.publicName
  let table ← table.declare declaration.slot
  let table ← table.declare declaration.builderName
  match table.adopt groupClass with
  | .ok table => return table
  | .error _ => return (table.assignAlias groupClass ImportTable.authorMarker).2

def property (declaration : IconDeclaration) (groupClass : Symbol) (style : CodeStyle) :
    Except PlaceholderMismatch CodeBlock := do
  let head ← Instruction.checked .statement "public val %T.%N: %T"
    [.typeName groupClass, .name declaration.publicName, .typeName style.iconType]
  let initial : Template := .typeName style.iconType ++ .ofText "(imageVector = \x7b " ++
    .name declaration.builderName ++ .ofText "(it) \x7d)"
  return [head, .indent] ++ LazyProperty.getter declaration.slot none initial ++ [.unindent]

def buildFunction (declaration : IconDeclaration) (style : CodeStyle) :
    Except PlaceholderMismatch CodeBlock := do
  let head ← Instruction.checked .openBlock "private fun %N(%N: %T): %T"
    [.name declaration.builderName, .name style.colorSchemeParam, .typeName style.colorsType,
      .typeName DrawingLibrary.imageVector]
  return head :: (declaration.body ++ [.closeBlock])

def members (declaration : IconDeclaration) (groupClass : Symbol) (style : CodeStyle) :
    Except PlaceholderMismatch (List CodeBlock) := do
  let property ← declaration.property groupClass style
  let buildFunction ← declaration.buildFunction style
  return [property, LazyProperty.slotDeclaration declaration.slot (.typeName style.iconType),
    buildFunction]

def toSourceFile (declaration : IconDeclaration) (package : String) (groupClass : Symbol)
    (style : CodeStyle) : Except FailureCause SourceFile := do
  let taken ← (declaration.takenNames package groupClass).mapError FailureCause.collision
  let members ← (declaration.members groupClass style).mapError
    (FailureCause.emission ∘ CodeError.placeholderMismatch)
  return .ofMembers taken declaration.publicName style.indent members

end IconDeclaration
end IconForge
