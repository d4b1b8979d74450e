import IconForge.Drawing.Check
import IconForge.Toml.Document

/-!
# Icon documents

An icon document is a TOML document with the sizes of a drawing and its nodes. Keys that a table
does not know are ignored; a missing or mistyped value makes the whole document malformed.
-/

namespace IconForge
namespace Toml

def Value.point? : Value → Option Point
  | .array [x, y] => return ⟨← x.number?, ← y.number?⟩
  | _ => none

def Value.colorStop? (value : Value) : Option ColorStop := do
  let entries ← value.entries?
  return ⟨← entries.required "offset" number?, ← entries.required "color" string?⟩

def Value.colorStops? (value : Value) : Option (List ColorStop) := do
  (← value.array?).mapM colorStop?

/-- A fill, whose kind is named by its entry `type`. -/
def Value.fill? (value : Value) : Option Fill := do
  let entries ← value.entries?
  match ← entries.required "type" string? with
  | "solid" => return .solid (← entries.required "color" string?)
  | "linear" =>
    return .linearGradient (← entries.required "stops" colorStops?)
      (← entries.required "start" point?) (← entries.required "end" point?)
  | "radial" =>
    return .radialGradient (← entries.required "stops" colorStops?)
      (← entries.required "center" point?) (← entries.required "radius" number?)
  | _ => none

/-- A bare number, or a table of a number and its unit. -/
def Value.length? (value : Value) : Option Length :=
  match value.number? with
  | some number => some (.plain number)
  | none => do
    let entries ← value.entries?
    let number ← entries.required "value" number?
    match ← entries.required "unit" string? with
    | "dp" => return .densityPixels number
    | _ => none

def Value.strokeCap? (value : Value) : Option StrokeCap := do
  match ← value.choice? with
  | "butt" => return .butt
  | "round" => return .round
  | "square" => return .square
  | _ => none

def Value.strokeJoin? (value : Value) : Option StrokeJoin := do
  match ← value.choice? with
  | "miter" => return .miter
  | "round" => return .round
  | "bevel" => return .bevel
  | _ => none

def Value.fillRule? (value : Value) : Option FillRule := do
  match ← value.choice? with
  | "nonzero" => return .nonZero
  | "evenodd" => return .evenOdd
  | _ => none

def Entries.paint? (entries : Entries) : Option Paint := do
  return {
    fill := ← entries.optional "fill" Value.fill?
    strokeColor := ← entries.optional "stroke" Value.string?
    fillAlpha := ← entries.withDefault "fill_alpha" Value.number? opaqueAlpha
    strokeAlpha := ← entries.withDefault "stroke_alpha" Value.number? opaqueAlpha
    strokeWidth := ← entries.optional "stroke_width" Value.length?
    strokeCap := ← entries.withDefault "stroke_cap" Value.strokeCap? .butt
    strokeJoin := ← entries.withDefault "stroke_join" Value.strokeJoin? .miter
    strokeMiter := ← entries.withDefault "stroke_miter" Value.number? standardMiter
    fillRule := ← entries.withDefault "fill_rule" Value.fillRule? .nonZero }

mutual

/-- A node, whose kind is named by its entry `type`. -/
def Value.node? : Value → Option (Node String)
  | .table entries => do
    match ← Entries.required entries "type" Value.string? with
    | "group" => return .group (← Toml.children? entries)
    | "path" =>
      return .shape ⟨← Entries.paint? entries, ← Entries.required entries "d" Value.string?⟩
    | _ => none
  | _ => none

def nodes? : List Value → Option (List (Node String))
  | [] => some []
  | value :: others => do
    let node ← value.node?
    let rest ← Toml.nodes? others
    return node :: rest

/-- The nodes under the key `children`; none if the key is absent. -/
def children? : List (String × Value) → Option (List (Node String))
  | [] => some []
  | (key, value) :: others =>
    if key = "children" then
      match value with
      | .array items => Toml.nodes? items
      | _ => none
    else
      Toml.children? others

end

/-- The drawing of an icon document. A viewport that is not given has the size of the drawing. -/
def Entries.drawing? (entries : Entries) : Option DrawingSource := do
  let width ← entries.withDefault "width" Value.number? standardSize
  let height ← entries.withDefault "height" Value.number? standardSize
  let viewportWidth ← entries.withDefault "viewport_width" Value.number? width
  let viewportHeight ← entries.withDefault "viewport_height" Value.number? height
  let nodes ← (← entries.withDefault "nodes" Value.array? []).mapM Value.node?
  return ⟨.densityPixels width, .densityPixels height, viewportWidth, viewportHeight, nodes⟩

end Toml

/-- The vector drawing of the text of an icon document. -/
def VectorDrawing.ofDocument (document : String) : Except SourceError VectorDrawing :=
  match (Toml.parse? document).bind Toml.Entries.drawing? with
  | none => .error .malformed
  | some drawing => drawing.toVector

end IconForge
