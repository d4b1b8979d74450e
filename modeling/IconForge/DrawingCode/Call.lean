import IconForge.Number.Text
import IconForge.PathData.Command

/-!
# Calls of drawing commands

Each drawing command is one call of the path builder of the drawing library.
-/

namespace IconForge
namespace DrawingCode

inductive CallArgument where
  | number (x : Binary32)
  | flag (b : Bool)

def CallArgument.text : CallArgument → String
  | number x => x.literal
  | flag b => if b then "true" else "false"

def pointArguments (p : Point) : List CallArgument := [.number p.x, .number p.y]

def arcArguments (arc : Arc) : List CallArgument :=
  [.number arc.radiusX, .number arc.radiusY, .number arc.rotation, .flag arc.isLarge,
    .flag arc.isSweep] ++ pointArguments arc.stop

/-- The function of a call: the name of the absolute form, with a suffix for the relative one. -/
def functionName (absolute : String) (relative : Bool) : String :=
  if relative then absolute ++ "Relative" else absolute

/-- The function that draws a command and its arguments. -/
def callOf : PathCommand → String × List CallArgument
  | .close => ("close", [])
  | .moveTo relative stop => (functionName "moveTo" relative, pointArguments stop)
  | .lineTo relative stop => (functionName "lineTo" relative, pointArguments stop)
  | .horizontalTo relative x => (functionName "horizontalLineTo" relative, [.number x])
  | .verticalTo relative y => (functionName "verticalLineTo" relative, [.number y])
  | .curveTo relative first second stop =>
    (functionName "curveTo" relative,
      pointArguments first ++ pointArguments second ++ pointArguments stop)
  | .reflectiveCurveTo relative second stop =>
    (functionName "reflectiveCurveTo" relative, pointArguments second ++ pointArguments stop)
  | .quadTo relative control stop =>
    (functionName "quadTo" relative, pointArguments control ++ pointArguments stop)
  | .reflectiveQuadTo relative stop =>
    (functionName "reflectiveQuadTo" relative, pointArguments stop)
  | .arcTo relative arc => (functionName "arcTo" relative, arcArguments arc)

def callText (command : PathCommand) : String :=
  let (function, arguments) := callOf command
  function ++ "(" ++ ", ".intercalate (arguments.map CallArgument.text) ++ ")"

end DrawingCode
end IconForge
