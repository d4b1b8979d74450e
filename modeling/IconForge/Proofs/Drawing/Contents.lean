import IconForge.Color
import IconForge.Drawing.Basic
import Mathlib

/-!
# The contents of drawings

The numbers and colours of a drawing, wherever they stand in it, and the drawing with its colours
replaced.
-/

namespace IconForge

/-! ### Numbers and colours -/

def Point.numbers (p : Point) : List Binary32 := [p.x, p.y]

def PathCommand.numbers : PathCommand → List Binary32
  | close => []
  | moveTo _ stop | lineTo _ stop | reflectiveQuadTo _ stop => stop.numbers
  | horizontalTo _ x => [x]
  | verticalTo _ y => [y]
  | curveTo _ first second stop => first.numbers ++ second.numbers ++ stop.numbers
  | reflectiveCurveTo _ second stop => second.numbers ++ stop.numbers
  | quadTo _ control stop => control.numbers ++ stop.numbers
  | arcTo _ arc => [arc.radiusX, arc.radiusY, arc.rotation] ++ arc.stop.numbers

namespace Fill

def numbers : Fill → List Binary32
  | solid _ => []
  | linearGradient stops start stop => stops.map ColorStop.offset ++ start.numbers ++ stop.numbers
  | radialGradient stops center radius => stops.map ColorStop.offset ++ center.numbers ++ [radius]

def colors : Fill → List String
  | solid color => [color]
  | linearGradient stops _ _ => stops.map ColorStop.color
  | radialGradient stops _ _ => stops.map ColorStop.color

end Fill

namespace Paint

def numbers (paint : Paint) : List Binary32 :=
  (paint.fill.map Fill.numbers).getD [] ++ (paint.strokeWidth.map Length.value).toList ++
    [paint.fillAlpha, paint.strokeAlpha, paint.strokeMiter]

def colors (paint : Paint) : List String :=
  (paint.fill.map Fill.colors).getD [] ++ paint.strokeColor.toList

end Paint

namespace Node

variable {γ : Type}

mutual

/-- The shapes of a node and of all nodes below it. -/
def shapes : Node γ → List (Shape γ)
  | .group children => allShapes children
  | .shape leaf => [leaf]

def allShapes : List (Node γ) → List (Shape γ)
  | [] => []
  | node :: others => node.shapes ++ allShapes others

end

end Node

def Shape.numbers (shape : Shape (List PathCommand)) : List Binary32 :=
  shape.paint.numbers ++ shape.geometry.flatMap PathCommand.numbers

namespace Drawing

def numbers (drawing : VectorDrawing) : List Binary32 :=
  [drawing.width.value, drawing.height.value, drawing.viewportWidth, drawing.viewportHeight] ++
    (Node.allShapes drawing.nodes).flatMap Shape.numbers

def colors (drawing : VectorDrawing) : List String :=
  (Node.allShapes drawing.nodes).flatMap fun shape => shape.paint.colors

/-- A drawing of finite numbers and hexadecimal colours, as every drawing that is read is. -/
structure IsProper (drawing : VectorDrawing) : Prop where
  finite : ∀ x ∈ drawing.numbers, x.IsFinite
  hexadecimal : ∀ color ∈ drawing.colors, Color.isHex color = true

end Drawing

/-! ### Replacing colours -/

variable (f : String → String)

def ColorStop.mapColor (stop : ColorStop) : ColorStop := { stop with color := f stop.color }

def Fill.mapColors : Fill → Fill
  | solid color => solid (f color)
  | linearGradient stops start stop => linearGradient (stops.map (.mapColor f)) start stop
  | radialGradient stops center radius => radialGradient (stops.map (.mapColor f)) center radius

def Paint.mapColors (paint : Paint) : Paint :=
  { paint with
    fill := paint.fill.map (.mapColors f)
    strokeColor := paint.strokeColor.map f }

def Shape.mapColors {γ : Type} (shape : Shape γ) : Shape γ :=
  { shape with paint := shape.paint.mapColors f }

namespace Node

variable {γ : Type}

mutual

def mapColors : Node γ → Node γ
  | .group children => .group (mapAllColors children)
  | .shape leaf => .shape (leaf.mapColors f)

def mapAllColors : List (Node γ) → List (Node γ)
  | [] => []
  | node :: others => node.mapColors :: mapAllColors others

end

end Node

def Drawing.mapColors {γ : Type} (drawing : Drawing γ) : Drawing γ :=
  { drawing with nodes := Node.mapAllColors f drawing.nodes }

/-! ### The value of a colour -/

/-- The eight digits of a hexadecimal colour: six stand for an opaque one. -/
def Color.digits (color : String) : String :=
  let normal := normalize color
  if normal.length = 6 then "FF" ++ normal else normal

end IconForge
