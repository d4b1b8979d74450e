import IconForge.PathData.Command

/-!
# Drawings

A drawing is a tree of groups and shapes under a header of sizes. A shape consists of its paint and
its geometry. The type of the geometry is a parameter: path data text in a drawing as it is written,
drawing commands in one that has been read.
-/

namespace IconForge

inductive LengthUnit where
  /-- Pixels independent of the density of the screen. -/
  | densityPixels
  deriving DecidableEq

structure Length where
  value : Binary32
  unit : Option LengthUnit
  deriving DecidableEq

namespace Length

def plain (value : Binary32) : Length := ⟨value, none⟩

def densityPixels (value : Binary32) : Length := ⟨value, some .densityPixels⟩

end Length

structure ColorStop where
  offset : Binary32
  color : String
  deriving DecidableEq

inductive Fill where
  | solid (color : String)
  | linearGradient (stops : List ColorStop) (start stop : Point)
  | radialGradient (stops : List ColorStop) (center : Point) (radius : Binary32)
  deriving DecidableEq

def Fill.kind : Fill → String
  | solid .. => "solid color"
  | linearGradient .. => "linear gradient"
  | radialGradient .. => "radial gradient"

inductive StrokeCap where
  | butt
  | round
  | square
  deriving DecidableEq

def StrokeCap.name : StrokeCap → String
  | butt => "Butt"
  | round => "Round"
  | square => "Square"

inductive StrokeJoin where
  | miter
  | round
  | bevel
  deriving DecidableEq

def StrokeJoin.name : StrokeJoin → String
  | miter => "Miter"
  | round => "Round"
  | bevel => "Bevel"

inductive FillRule where
  | nonZero
  | evenOdd
  deriving DecidableEq

def FillRule.name : FillRule → String
  | nonZero => "NonZero"
  | evenOdd => "EvenOdd"

/-- How the inside and the outline of a shape are painted. -/
structure Paint where
  fill : Option Fill
  strokeColor : Option String
  fillAlpha : Binary32
  strokeAlpha : Binary32
  strokeWidth : Option Length
  strokeCap : StrokeCap
  strokeJoin : StrokeJoin
  strokeMiter : Binary32
  fillRule : FillRule
  deriving DecidableEq

def opaqueAlpha : Binary32 := .ofInt 1

def standardMiter : Binary32 := .ofInt 4

def standardSize : Binary32 := .ofInt 24

def Paint.none : Paint where
  fill := .none
  strokeColor := .none
  fillAlpha := opaqueAlpha
  strokeAlpha := opaqueAlpha
  strokeWidth := .none
  strokeCap := .butt
  strokeJoin := .miter
  strokeMiter := standardMiter
  fillRule := .nonZero

structure Shape (γ : Type) where
  paint : Paint
  geometry : γ

inductive Node (γ : Type) where
  | group (children : List (Node γ))
  | shape (shape : Shape γ)

structure Drawing (γ : Type) where
  width : Length
  height : Length
  viewportWidth : Binary32
  viewportHeight : Binary32
  nodes : List (Node γ)

abbrev VectorDrawing := Drawing (List PathCommand)

/-- A drawing as it is written, with its geometry as path data. -/
abbrev DrawingSource := Drawing String

/-- A square drawing of some size with a viewport of the same size. -/
def Drawing.square {γ : Type} (size : Binary32) (nodes : List (Node γ)) : Drawing γ :=
  ⟨.densityPixels size, .densityPixels size, size, size, nodes⟩

/-- The place of a node in a drawing: the indices of the children on the way from the root. -/
structure NodePath where
  indices : List Nat
  deriving DecidableEq

namespace NodePath

def root : NodePath := ⟨[]⟩

def child (place : NodePath) (index : Nat) : NodePath := ⟨place.indices ++ [index]⟩

def display (place : NodePath) : String :=
  match place.indices with
  | [] => "/"
  | indices => String.join (indices.map fun index => "/" ++ toString index)

end NodePath
end IconForge
