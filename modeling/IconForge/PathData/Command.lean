import IconForge.Number.Binary

/-!
# Drawing commands

The commands that trace the outline of a path. Each but the closing one is absolute, or relative to
the current point.
-/

namespace IconForge

structure Point where
  x : Binary32
  y : Binary32
  deriving DecidableEq

/-- An elliptic arc: its radii, the rotation of its axes, which of the four arcs it is, and where it
ends. -/
structure Arc where
  radiusX : Binary32
  radiusY : Binary32
  rotation : Binary32
  isLarge : Bool
  isSweep : Bool
  stop : Point
  deriving DecidableEq

inductive PathCommand where
  | close
  | moveTo (relative : Bool) (stop : Point)
  | lineTo (relative : Bool) (stop : Point)
  | horizontalTo (relative : Bool) (x : Binary32)
  | verticalTo (relative : Bool) (y : Binary32)
  | curveTo (relative : Bool) (first second stop : Point)
  | reflectiveCurveTo (relative : Bool) (second stop : Point)
  | quadTo (relative : Bool) (control stop : Point)
  | reflectiveQuadTo (relative : Bool) (stop : Point)
  | arcTo (relative : Bool) (arc : Arc)
  deriving DecidableEq

end IconForge
