import IconForge.Code.Block
import IconForge.CodeStyle
import IconForge.Drawing.Basic
import IconForge.DrawingCode.Call
import IconForge.DrawingLibrary
import IconForge.Theme.Basic

/-!
# Code of shapes

A shape becomes a block headed by a call with its paint, with one call for each drawing command
inside. Parameters that have the value the drawing library assumes are left out, as far as alphas
and the width of the stroke are concerned. Solid colours that the theme knows are replaced by its
tokens; colours of gradients never are.
-/

namespace IconForge

inductive CodeError where
  /-- A gradient without stops. -/
  | malformedFill (place : NodePath) (kind : String)
  | placeholderMismatch (mismatch : PlaceholderMismatch)
  deriving DecidableEq

namespace CodeError

def message : CodeError → String
  | malformedFill place kind => kind ++ " at node " ++ place.display ++ " declares no color stops"
  | placeholderMismatch mismatch => mismatch.message

def place? : CodeError → Option NodePath
  | malformedFill place _ => some place
  | placeholderMismatch _ => none

end CodeError

/-- What the code of a drawing depends on besides the drawing. -/
structure CodeContext where
  theme : Theme
  style : CodeStyle

namespace DrawingCode

open Template (ofText member)

/-- A literal colour; six digits are those of an opaque colour. -/
def colorExpression (color : String) : Template :=
  let digits := Color.normalize color
  let digits := if digits.utf8ByteSize = 6 then "FF" ++ digits else digits
  member DrawingLibrary.color ++ ofText ("(0x" ++ digits ++ ")")

/-- A solid paint: the token that the theme has for the colour, or the colour itself. -/
def paintExpression (context : CodeContext) (color : String) : Template :=
  let value :=
    match context.theme.token? color with
    | some token => ofText context.style.colorSchemeParam ++ ofText "." ++ .name token
    | none => colorExpression color
  member DrawingLibrary.solidColor ++ ofText "(" ++ value ++ ofText ")"

def pointExpression (p : Point) : Template :=
  member DrawingLibrary.offset ++ ofText ("(" ++ p.x.literal ++ ", " ++ p.y.literal ++ ")")

def lengthExpression (length : Length) : Template :=
  match length.unit with
  | some .densityPixels => ofText (length.value.text ++ ".") ++ member DrawingLibrary.densityPixels
  | none => ofText length.value.literal

def stopExpression (stop : ColorStop) : Template :=
  ofText stop.offset.literal ++ ofText " to " ++ colorExpression stop.color

def stopsExpression (brush : Symbol) (stops : List ColorStop) : Template :=
  member brush ++ ofText "(" ++ Template.join ", " (stops.map stopExpression)

/-- The value of the fill of a node; a gradient needs a stop. -/
def fillExpression (context : CodeContext) (place : NodePath) :
    Option Fill → Except CodeError Template
  | none => .ok (ofText "null")
  | some (.solid color) => .ok (paintExpression context color)
  | some (.linearGradient stops start stop) =>
    if stops.isEmpty then
      .error (.malformedFill place (Fill.linearGradient stops start stop).kind)
    else
      .ok (stopsExpression DrawingLibrary.linearGradient stops ++
        ofText ", start = " ++ pointExpression start ++ ofText ", end = " ++ pointExpression stop ++
        ofText ")")
  | some (.radialGradient stops center radius) =>
    if stops.isEmpty then
      .error (.malformedFill place (Fill.radialGradient stops center radius).kind)
    else
      .ok (stopsExpression DrawingLibrary.radialGradient stops ++
        ofText ", center = " ++ pointExpression center ++ ofText ", radius = " ++
        ofText radius.literal ++ ofText ")")

def strokeExpression (context : CodeContext) : Option String → Template
  | some color => paintExpression context color
  | none => ofText "null"

def parameter (name : String) (value : Template) : Template :=
  ofText name ++ ofText " = " ++ value

/-- An alpha parameter, left out for an opaque paint. -/
def alphaParameters (name : String) (alpha : Binary32) : List Template :=
  if alpha = opaqueAlpha then [] else [parameter name (ofText alpha.literal)]

def widthParameters : Option Length → List Template
  | some width => [parameter "strokeLineWidth" (lengthExpression width)]
  | none => []

/-- The parameters of a shape, given the value of its fill. -/
def parameters (context : CodeContext) (paint : Paint) (fill : Template) : List Template :=
  [parameter "fill" fill, parameter "stroke" (strokeExpression context paint.strokeColor)] ++
    alphaParameters "fillAlpha" paint.fillAlpha ++
    alphaParameters "strokeAlpha" paint.strokeAlpha ++
    widthParameters paint.strokeWidth ++
    [parameter "strokeLineCap" (member (DrawingLibrary.strokeCap paint.strokeCap.name)),
      parameter "strokeLineJoin" (member (DrawingLibrary.strokeJoin paint.strokeJoin.name)),
      parameter "strokeLineMiter" (ofText paint.strokeMiter.literal),
      parameter "pathFillType" (member (DrawingLibrary.pathFillType paint.fillRule.name))]

def shapeHeader (context : CodeContext) (place : NodePath) (paint : Paint) :
    Except CodeError Template := do
  let fill ← fillExpression context place paint.fill
  return member DrawingLibrary.path ++ ofText "(" ++
    Template.join ", " (parameters context paint fill) ++ ofText ")"

def commandStatement (command : PathCommand) : Instruction :=
  .statement (ofText (callText command))

def shapeBlock (context : CodeContext) (place : NodePath) (shape : Shape (List PathCommand)) :
    Except CodeError CodeBlock := do
  let header ← shapeHeader context place shape.paint
  return .openBlock header :: (shape.geometry.map commandStatement ++ [.closeBlock])

end DrawingCode
end IconForge
