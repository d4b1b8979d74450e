import IconForge.DrawingCode.Shape

/-!
# Code of drawings

The nodes of a drawing are emitted depth first in their order; a group wraps the code of its
children in a block. The whole drawing is one expression that builds the image.
-/

namespace IconForge
namespace DrawingCode

open Template (ofText member)

mutual

def nodeBlock (context : CodeContext) : Node (List PathCommand) → NodePath →
    Except CodeError CodeBlock
  | .group children, place => do
    let body ← nodeBlocks context children place 0
    return .openBlock (member DrawingLibrary.group) :: (body ++ [.closeBlock])
  | .shape leaf, place => shapeBlock context place leaf

/-- The code of children of one node, the first of which has a given index. -/
def nodeBlocks (context : CodeContext) : List (Node (List PathCommand)) → NodePath → Nat →
    Except CodeError CodeBlock
  | [], _, _ => .ok []
  | node :: others, parent, index => do
    let first ← nodeBlock context node (parent.child index)
    let rest ← nodeBlocks context others parent (index + 1)
    return first ++ rest

end

def drawingHeader (name : String) (drawing : VectorDrawing) : Template :=
  ofText "return " ++ member DrawingLibrary.imageVectorBuilder ++
    ofText "(name = " ++ .string name ++
    ofText ", defaultWidth = " ++ lengthExpression drawing.width ++
    ofText ", defaultHeight = " ++ lengthExpression drawing.height ++
    ofText (", viewportWidth = " ++ drawing.viewportWidth.literal ++
      ", viewportHeight = " ++ drawing.viewportHeight.literal ++ ").apply")

def drawingBlock (context : CodeContext) (name : String) (drawing : VectorDrawing) :
    Except CodeError CodeBlock := do
  let body ← nodeBlocks context drawing.nodes .root 0
  return .openBlock (drawingHeader name drawing) :: (body ++ [.closeBlockWith (ofText ".build()")])

end DrawingCode
end IconForge
