import IconForge.Color
import IconForge.Drawing.Basic
import IconForge.PathData.Parser

/-!
# From written drawings to vector drawings

A written drawing is accepted if its path data can be read, its numbers are finite and its colours
hexadecimal. The parts are checked in one fixed order, nodes depth first, and the first fault is the
error, with the place of its node.
-/

namespace IconForge

inductive NumberField where
  | width
  | height
  | viewportWidth
  | viewportHeight
  | strokeWidth
  | stopOffset
  | gradientStart
  | gradientStop
  | gradientCenter
  | gradientRadius
  | fillAlpha
  | strokeAlpha
  | strokeMiter
  deriving DecidableEq

def NumberField.name : NumberField → String
  | width => "width"
  | height => "height"
  | viewportWidth => "viewport_width"
  | viewportHeight => "viewport_height"
  | strokeWidth => "stroke_width"
  | stopOffset => "stop offset"
  | gradientStart => "gradient start"
  | gradientStop => "gradient end"
  | gradientCenter => "gradient center"
  | gradientRadius => "gradient radius"
  | fillAlpha => "fill_alpha"
  | strokeAlpha => "stroke_alpha"
  | strokeMiter => "stroke_miter"

inductive SourceError where
  /-- The text is not an icon document. -/
  | malformed
  | pathData (place : NodePath) (data : String) (error : PathData.SyntaxError)
  | invalidColor (place : NodePath) (color : String)
  | notFinite (place : NodePath) (field : NumberField)
  deriving DecidableEq

def SourceError.message : SourceError → String
  | malformed => "invalid icon TOML"
  | pathData place _ error => "invalid path data at node " ++ place.display ++ ": " ++ error.display
  | invalidColor place color =>
    "invalid color '" ++ color ++ "' at node " ++ place.display ++ ": expected 6 or 8 hex digits"
  | notFinite place field =>
    field.name ++ " at node " ++ place.display ++ " is not a finite number"

def Binary.checkFinite (x : Binary32) (field : NumberField) (place : NodePath) :
    Except SourceError Unit :=
  if x.IsFinite then .ok () else .error (.notFinite place field)

def Point.check (p : Point) (field : NumberField) (place : NodePath) :
    Except SourceError Unit := do
  p.x.checkFinite field place
  p.y.checkFinite field place

def Color.check (color : String) (place : NodePath) : Except SourceError Unit :=
  if Color.isHex color then .ok () else .error (.invalidColor place color)

def ColorStop.check (place : NodePath) (colorStop : ColorStop) : Except SourceError Unit := do
  colorStop.offset.checkFinite .stopOffset place
  Color.check colorStop.color place

def Fill.check (place : NodePath) : Fill → Except SourceError Unit
  | solid color => Color.check color place
  | linearGradient stops start stop => do
    stops.forM (ColorStop.check place)
    start.check .gradientStart place
    stop.check .gradientStop place
  | radialGradient stops center radius => do
    stops.forM (ColorStop.check place)
    center.check .gradientCenter place
    radius.checkFinite .gradientRadius place

/-- The width of the stroke comes first, then fill, stroke colour, alphas and miter limit. -/
def Paint.check (paint : Paint) (place : NodePath) : Except SourceError Unit := do
  if let some width := paint.strokeWidth then
    width.value.checkFinite .strokeWidth place
  if let some fill := paint.fill then
    fill.check place
  if let some color := paint.strokeColor then
    Color.check color place
  paint.fillAlpha.checkFinite .fillAlpha place
  paint.strokeAlpha.checkFinite .strokeAlpha place
  paint.strokeMiter.checkFinite .strokeMiter place

def Shape.toVector (shape : Shape String) (place : NodePath) :
    Except SourceError (Shape (List PathCommand)) := do
  let commands ← (PathData.parse shape.geometry).mapError (.pathData place shape.geometry)
  shape.paint.check place
  return ⟨shape.paint, commands⟩

mutual

def Node.toVector : Node String → NodePath → Except SourceError (Node (List PathCommand))
  | .group children, place => .group <$> Node.toVectors children place 0
  | .shape leaf, place => .shape <$> leaf.toVector place

/-- The vector forms of children of one node, the first of which has a given index. -/
def Node.toVectors : List (Node String) → NodePath → Nat →
    Except SourceError (List (Node (List PathCommand)))
  | [], _, _ => .ok []
  | node :: others, parent, index => do
    let first ← node.toVector (parent.child index)
    let rest ← Node.toVectors others parent (index + 1)
    return first :: rest

end

/-- The vector form of a written drawing; the sizes are checked before the nodes. -/
def Drawing.toVector (drawing : DrawingSource) : Except SourceError VectorDrawing := do
  drawing.width.value.checkFinite .width .root
  drawing.height.value.checkFinite .height .root
  drawing.viewportWidth.checkFinite .viewportWidth .root
  drawing.viewportHeight.checkFinite .viewportHeight .root
  let nodes ← Node.toVectors drawing.nodes .root 0
  return ⟨drawing.width, drawing.height, drawing.viewportWidth, drawing.viewportHeight, nodes⟩

end IconForge
