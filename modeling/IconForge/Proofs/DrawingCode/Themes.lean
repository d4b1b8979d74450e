import IconForge.Proofs.Drawing.Contents
import IconForge.Proofs.DrawingCode.Built
import IconForge.Proofs.Theme.Colors

/-!
# Themes in drawing code

The code of a drawing has gaps for the paints of its solid colours, two at most for each shape, in
the call that opens the block of the shape. A theme decides what fills the gaps and nothing else;
whether there is code at all, the theme has no say in. Colours are seen in their normal form
everywhere, so a drawing may spell them in any way (`drawingBlock_themed`).
-/

namespace IconForge

/-! ### Solid colours -/

def Fill.solidColors : Fill → List String
  | solid color => [color]
  | linearGradient .. => []
  | radialGradient .. => []

/-- The solid colours of a paint: that of the fill, then that of the stroke. -/
def Paint.solidColors (paint : Paint) : List String :=
  (paint.fill.map Fill.solidColors).getD [] ++ paint.strokeColor.toList

/-- The solid colours of a drawing, shape by shape. -/
def Drawing.solidColors (drawing : VectorDrawing) : List String :=
  (Node.allShapes drawing.nodes).flatMap fun shape => shape.paint.solidColors

namespace DrawingCode

open Template (ofText member)

/-! ### Gaps -/

/-- The value of a parameter: a template, or a gap for the paint of a solid colour. -/
inductive ValueFrame where
  | fixed (template : Template)
  | gap (color : String)

/-- An instruction, or the call that opens the block of a shape with a fill, a stroke and some other
parameters. -/
inductive InstructionFrame where
  | fixed (instruction : Instruction)
  | path (fill stroke : ValueFrame) (others : List Template)

def ValueFrame.colors : ValueFrame → List String
  | fixed _ => []
  | gap color => [color]

def InstructionFrame.colors : InstructionFrame → List String
  | fixed _ => []
  | path fill stroke _ => fill.colors ++ stroke.colors

variable (paint : String → Template)

def ValueFrame.value : ValueFrame → Template
  | fixed template => template
  | gap color => paint color

def InstructionFrame.instruction : InstructionFrame → Instruction
  | fixed instruction => instruction
  | path fill stroke others => .openBlock (member DrawingLibrary.path ++ ofText "(" ++
      Template.join ", " (parameter "fill" (fill.value paint) ::
        parameter "stroke" (stroke.value paint) :: others) ++ ofText ")")

def fillGaps (frames : List InstructionFrame) : CodeBlock := frames.map (·.instruction paint)

/-! ### The gaps of a drawing -/

/-- Of a gradient, no theme is asked for the colours. -/
def fillFrame (place : NodePath) : Option Fill → Except CodeError ValueFrame
  | some (.solid color) => .ok (.gap color)
  | fill => .fixed <$> fillExpression ⟨.empty, .standard⟩ place fill

def strokeFrame : Option String → ValueFrame
  | some color => .gap color
  | none => .fixed (ofText "null")

/-- The parameters of a shape after its fill and its stroke. -/
def otherParameters (paint : Paint) : List Template :=
  alphaParameters "fillAlpha" paint.fillAlpha ++
    alphaParameters "strokeAlpha" paint.strokeAlpha ++
    widthParameters paint.strokeWidth ++
    [parameter "strokeLineCap" (member (DrawingLibrary.strokeCap paint.strokeCap.name)),
      parameter "strokeLineJoin" (member (DrawingLibrary.strokeJoin paint.strokeJoin.name)),
      parameter "strokeLineMiter" (ofText paint.strokeMiter.literal),
      parameter "pathFillType" (member (DrawingLibrary.pathFillType paint.fillRule.name))]

def shapeFrames (place : NodePath) (shape : Shape (List PathCommand)) :
    Except CodeError (List InstructionFrame) := do
  let fill ← fillFrame place shape.paint.fill
  return .path fill (strokeFrame shape.paint.strokeColor) (otherParameters shape.paint) ::
    (shape.geometry.map (fun command => .fixed (commandStatement command)) ++ [.fixed .closeBlock])

mutual

def nodeFrames : Node (List PathCommand) → NodePath → Except CodeError (List InstructionFrame)
  | .group children, place => do
    let body ← nodesFrames children place 0
    return .fixed (.openBlock (member DrawingLibrary.group)) :: (body ++ [.fixed .closeBlock])
  | .shape leaf, place => shapeFrames place leaf

def nodesFrames : List (Node (List PathCommand)) → NodePath → Nat →
    Except CodeError (List InstructionFrame)
  | [], _, _ => .ok []
  | node :: others, parent, index => do
    let first ← nodeFrames node (parent.child index)
    let rest ← nodesFrames others parent (index + 1)
    return first ++ rest

end

def drawingFrames (name : String) (drawing : VectorDrawing) :
    Except CodeError (List InstructionFrame) := do
  let body ← nodesFrames drawing.nodes .root 0
  return .fixed (.openBlock (drawingHeader name drawing)) ::
    (body ++ [.fixed (.closeBlockWith (ofText ".build()"))])

/-! ### Blocks with their gaps filled -/

section Frames

variable (context : CodeContext)

theorem fillExpression_eq (place : NodePath) (fill : Option Fill) :
    fillExpression context place fill =
      ValueFrame.value (paintExpression context) <$> fillFrame place fill := by
  cases fill with
  | none => rfl
  | some fill =>
    cases fill with
    | solid color => rfl
    | linearGradient stops start stop =>
      simp only [fillFrame, fillExpression]
      split <;> rfl
    | radialGradient stops center radius =>
      simp only [fillFrame, fillExpression]
      split <;> rfl

theorem strokeExpression_eq (color : Option String) :
    strokeExpression context color = (strokeFrame color).value (paintExpression context) := by
  cases color <;> rfl

theorem parameters_eq (paint : Paint) (fill : Template) :
    parameters context paint fill = parameter "fill" fill ::
      parameter "stroke" ((strokeFrame paint.strokeColor).value (paintExpression context)) ::
        otherParameters paint := by
  simp [parameters, otherParameters, strokeExpression_eq]

theorem shapeBlock_eq (place : NodePath) (shape : Shape (List PathCommand)) :
    shapeBlock context place shape =
      fillGaps (paintExpression context) <$> shapeFrames place shape := by
  simp only [shapeBlock, shapeHeader, shapeFrames, fillExpression_eq]
  cases fillFrame place shape.paint.fill with
  | error e => rfl
  | ok fill =>
    simp [fillGaps, InstructionFrame.instruction, parameters_eq]

mutual

theorem nodeBlock_eq (node : Node (List PathCommand)) (place : NodePath) :
    nodeBlock context node place =
      fillGaps (paintExpression context) <$> nodeFrames node place := by
  match node with
  | .group children =>
    rw [nodeBlock, nodeFrames, nodeBlocks_eq children place 0]
    cases nodesFrames children place 0 with
    | error e => rfl
    | ok body => simp [fillGaps, InstructionFrame.instruction]
  | .shape leaf =>
    rw [nodeBlock, nodeFrames]
    exact shapeBlock_eq context place leaf

theorem nodeBlocks_eq (nodes : List (Node (List PathCommand))) (parent : NodePath) (index : Nat) :
    nodeBlocks context nodes parent index =
      fillGaps (paintExpression context) <$> nodesFrames nodes parent index := by
  match nodes with
  | [] => rfl
  | node :: others =>
    rw [nodeBlocks, nodesFrames, nodeBlock_eq node (parent.child index),
      nodeBlocks_eq others parent (index + 1)]
    cases nodeFrames node (parent.child index) with
    | error e => rfl
    | ok first =>
      cases nodesFrames others parent (index + 1) with
      | error e => rfl
      | ok rest => exact congrArg Except.ok List.map_append.symm

end

theorem drawingBlock_eq (name : String) (drawing : VectorDrawing) :
    drawingBlock context name drawing =
      fillGaps (paintExpression context) <$> drawingFrames name drawing := by
  rw [drawingBlock, drawingFrames, nodeBlocks_eq]
  cases nodesFrames drawing.nodes .root 0 with
  | error e => rfl
  | ok body => simp [fillGaps, InstructionFrame.instruction]

end Frames

/-! ### The colours of the gaps -/

theorem colors_fillFrame {place : NodePath} {fill : Option Fill} {frame : ValueFrame}
    (h : fillFrame place fill = .ok frame) :
    frame.colors = (fill.map Fill.solidColors).getD [] := by
  unfold fillFrame at h
  split at h
  · cases h
    rfl
  · next hsolid =>
    obtain ⟨template, -, rfl⟩ := map_eq_ok_iff.mp h
    cases fill with
    | none => rfl
    | some fill =>
      cases fill with
      | solid color => exact absurd rfl (hsolid color)
      | linearGradient stops start stop => rfl
      | radialGradient stops center radius => rfl

theorem colors_strokeFrame (color : Option String) : (strokeFrame color).colors = color.toList := by
  cases color <;> rfl

theorem colors_shapeFrames {place : NodePath} {shape : Shape (List PathCommand)}
    {frames : List InstructionFrame} (h : shapeFrames place shape = .ok frames) :
    frames.flatMap InstructionFrame.colors = shape.paint.solidColors := by
  simp only [shapeFrames, bind_eq_ok_iff, pure_eq_ok_iff] at h
  obtain ⟨fill, hfill, rfl⟩ := h
  simp [InstructionFrame.colors, colors_fillFrame hfill, colors_strokeFrame, Paint.solidColors,
    List.flatMap_map]

mutual

theorem colors_nodeFrames (node : Node (List PathCommand)) {place : NodePath}
    {frames : List InstructionFrame} (h : nodeFrames node place = .ok frames) :
    frames.flatMap InstructionFrame.colors =
      node.shapes.flatMap fun shape => shape.paint.solidColors := by
  match node with
  | .group children =>
    simp only [nodeFrames, bind_eq_ok_iff, pure_eq_ok_iff] at h
    obtain ⟨body, hbody, rfl⟩ := h
    simp [InstructionFrame.colors, colors_nodesFrames children hbody, Node.shapes]
  | .shape leaf =>
    rw [nodeFrames] at h
    simp [colors_shapeFrames h, Node.shapes]

theorem colors_nodesFrames (nodes : List (Node (List PathCommand))) {parent : NodePath}
    {index : Nat} {frames : List InstructionFrame}
    (h : nodesFrames nodes parent index = .ok frames) :
    frames.flatMap InstructionFrame.colors =
      (Node.allShapes nodes).flatMap fun shape => shape.paint.solidColors := by
  match nodes with
  | [] =>
    cases h
    rfl
  | node :: others =>
    simp only [nodesFrames, bind_eq_ok_iff, pure_eq_ok_iff] at h
    obtain ⟨first, hfirst, rest, hrest, rfl⟩ := h
    rw [List.flatMap_append, colors_nodeFrames node hfirst, colors_nodesFrames others hrest,
      Node.allShapes, List.flatMap_append]

end

theorem colors_drawingFrames {name : String} {drawing : VectorDrawing}
    {frames : List InstructionFrame} (h : drawingFrames name drawing = .ok frames) :
    frames.flatMap InstructionFrame.colors = drawing.solidColors := by
  simp only [drawingFrames, bind_eq_ok_iff, pure_eq_ok_iff] at h
  obtain ⟨body, hbody, rfl⟩ := h
  simp [InstructionFrame.colors, colors_nodesFrames drawing.nodes hbody, Drawing.solidColors]

/-! ### Paints -/

def solidPaint (value : Template) : Template :=
  member DrawingLibrary.solidColor ++ ofText "(" ++ value ++ ofText ")"

/-- A token of the theme, which is read from a parameter. -/
def tokenExpression (style : CodeStyle) (token : String) : Template :=
  ofText style.colorSchemeParam ++ ofText "." ++ .name token

theorem paintExpression_empty (style : CodeStyle) (color : String) :
    paintExpression ⟨.empty, style⟩ color = solidPaint (colorExpression color) := rfl

/-- The first rule for a colour decides about its paint; without one it is painted as it is without
a theme. -/
theorem paintExpression_cases (theme : Theme) (style : CodeStyle) (color : String) :
    (∃ before rule after, theme.rules = before ++ rule :: after ∧
        rule.literal = Color.normalize color ∧
        (∀ earlier ∈ before, earlier.literal ≠ Color.normalize color) ∧
        paintExpression ⟨theme, style⟩ color = solidPaint (tokenExpression style rule.token)) ∨
      (∀ rule ∈ theme.rules, rule.literal ≠ Color.normalize color) ∧
        paintExpression ⟨theme, style⟩ color = paintExpression ⟨.empty, style⟩ color := by
  cases hfind : theme.rules.find? (·.literal = Color.normalize color) with
  | none =>
    have htoken : theme.token? color = none := by simp [Theme.token?, hfind]
    refine .inr ⟨by simpa using hfind, ?_⟩
    simp only [paintExpression, htoken]
    rfl
  | some rule =>
    have htoken : theme.token? color = some rule.token := by simp [Theme.token?, hfind]
    obtain ⟨hrule, before, after, hsplit, hbefore⟩ := List.find?_eq_some_iff_append.mp hfind
    refine .inl ⟨before, rule, after, hsplit, by simpa using hrule, by simpa using hbefore, ?_⟩
    simp only [paintExpression, htoken]
    rfl

/-! ### Spellings of colours -/

section Spellings

variable {color color' : String}

theorem colorExpression_congr (h : Color.normalize color = Color.normalize color') :
    colorExpression color = colorExpression color' := by
  rw [colorExpression, colorExpression, h]

theorem paintExpression_congr (context : CodeContext)
    (h : Color.normalize color = Color.normalize color') :
    paintExpression context color = paintExpression context color' := by
  rw [paintExpression, paintExpression, Theme.token?, Theme.token?, h, colorExpression_congr h]

theorem map_stopExpression_congr {stops others : List ColorStop}
    (h : stops.map (ColorStop.mapColor Color.normalize) =
      others.map (ColorStop.mapColor Color.normalize)) :
    stops.map stopExpression = others.map stopExpression := by
  induction stops generalizing others with
  | nil =>
    cases others with
    | nil => rfl
    | cons other rest => cases h
  | cons stop stops ih =>
    cases others with
    | nil => cases h
    | cons other rest =>
      simp only [List.map_cons, List.cons.injEq, ColorStop.mapColor, ColorStop.mk.injEq] at h
      obtain ⟨⟨hoffset, hcolor⟩, hrest⟩ := h
      rw [List.map_cons, List.map_cons, stopExpression, stopExpression, hoffset,
        colorExpression_congr hcolor, ih hrest]

theorem isEmpty_congr {stops others : List ColorStop}
    (h : stops.map (ColorStop.mapColor Color.normalize) =
      others.map (ColorStop.mapColor Color.normalize)) :
    stops.isEmpty = others.isEmpty := by
  rw [← List.isEmpty_map (f := ColorStop.mapColor Color.normalize), h, List.isEmpty_map]

theorem fillExpression_congr (context : CodeContext) (place : NodePath) {fill other : Option Fill}
    (h : fill.map (Fill.mapColors Color.normalize) =
      other.map (Fill.mapColors Color.normalize)) :
    fillExpression context place fill = fillExpression context place other := by
  match fill, other with
  | none, none => rfl
  | some (.solid color), some (.solid color') =>
    simp only [Option.map_some, Fill.mapColors, Option.some.injEq, Fill.solid.injEq] at h
    simp only [fillExpression, paintExpression_congr context h]
  | some (.linearGradient stops start stop), some (.linearGradient stops' start' stop') =>
    simp only [Option.map_some, Fill.mapColors, Option.some.injEq, Fill.linearGradient.injEq] at h
    obtain ⟨hstops, rfl, rfl⟩ := h
    simp only [fillExpression, stopsExpression, isEmpty_congr hstops,
      map_stopExpression_congr hstops, Fill.kind]
  | some (.radialGradient stops center radius), some (.radialGradient stops' center' radius') =>
    simp only [Option.map_some, Fill.mapColors, Option.some.injEq, Fill.radialGradient.injEq] at h
    obtain ⟨hstops, rfl, rfl⟩ := h
    simp only [fillExpression, stopsExpression, isEmpty_congr hstops,
      map_stopExpression_congr hstops, Fill.kind]
  | none, some _ | some _, none => cases h
  | some (.solid _), some (.linearGradient ..) | some (.solid _), some (.radialGradient ..)
  | some (.linearGradient ..), some (.solid _) | some (.radialGradient ..), some (.solid _)
  | some (.linearGradient ..), some (.radialGradient ..)
  | some (.radialGradient ..), some (.linearGradient ..) => cases h

theorem strokeExpression_congr (context : CodeContext) {stroke other : Option String}
    (h : stroke.map Color.normalize = other.map Color.normalize) :
    strokeExpression context stroke = strokeExpression context other := by
  cases stroke with
  | none =>
    cases other with
    | none => rfl
    | some color => cases h
  | some color =>
    cases other with
    | none => cases h
    | some color' => exact paintExpression_congr context (Option.some.inj h)

theorem shapeBlock_congr (context : CodeContext) (place : NodePath)
    {shape other : Shape (List PathCommand)}
    (h : shape.mapColors Color.normalize = other.mapColors Color.normalize) :
    shapeBlock context place shape = shapeBlock context place other := by
  obtain ⟨paint, geometry⟩ := shape
  obtain ⟨paint', geometry'⟩ := other
  simp only [Shape.mapColors, Paint.mapColors, Shape.mk.injEq, Paint.mk.injEq] at h
  obtain ⟨⟨hfill, hstroke, halpha, halpha', hwidth, hcap, hjoin, hmiter, hrule⟩, rfl⟩ := h
  simp only [shapeBlock, shapeHeader, parameters, fillExpression_congr context place hfill,
    strokeExpression_congr context hstroke, halpha, halpha', hwidth, hcap, hjoin, hmiter, hrule]

mutual

theorem nodeBlock_congr (context : CodeContext) (node other : Node (List PathCommand))
    (place : NodePath) (h : node.mapColors Color.normalize = other.mapColors Color.normalize) :
    nodeBlock context node place = nodeBlock context other place := by
  match node, other with
  | .group children, .group children' =>
    simp only [Node.mapColors, Node.group.injEq] at h
    simp only [nodeBlock, nodeBlocks_congr context children children' place 0 h]
  | .shape leaf, .shape leaf' =>
    simp only [Node.mapColors, Node.shape.injEq] at h
    simp only [nodeBlock, shapeBlock_congr context place h]
  | .group _, .shape _ | .shape _, .group _ => simp [Node.mapColors] at h

theorem nodeBlocks_congr (context : CodeContext) (nodes others : List (Node (List PathCommand)))
    (parent : NodePath) (index : Nat)
    (h : Node.mapAllColors Color.normalize nodes = Node.mapAllColors Color.normalize others) :
    nodeBlocks context nodes parent index = nodeBlocks context others parent index := by
  match nodes, others with
  | [], [] => rfl
  | node :: rest, node' :: rest' =>
    simp only [Node.mapAllColors, List.cons.injEq] at h
    simp only [nodeBlocks, nodeBlock_congr context node node' (parent.child index) h.1,
      nodeBlocks_congr context rest rest' parent (index + 1) h.2]
  | [], _ :: _ | _ :: _, [] => simp [Node.mapAllColors] at h

end

/-- Drawings with the same colours in their normal form have the same code. -/
theorem drawingBlock_congr (context : CodeContext) (name : String) {drawing other : VectorDrawing}
    (h : drawing.mapColors Color.normalize = other.mapColors Color.normalize) :
    drawingBlock context name drawing = drawingBlock context name other := by
  obtain ⟨width, height, viewportWidth, viewportHeight, nodes⟩ := drawing
  obtain ⟨width', height', viewportWidth', viewportHeight', nodes'⟩ := other
  simp only [Drawing.mapColors, Drawing.mk.injEq] at h
  obtain ⟨rfl, rfl, rfl, rfl, hnodes⟩ := h
  simp only [drawingBlock, nodeBlocks_congr context nodes nodes' .root 0 hnodes]
  rfl

end Spellings

/-- Either there is no code for a drawing, for one reason whatever the theme is, or the code under
every theme is the same but for the paints of the solid colours, which stand in the calls that open
the blocks of shapes. The first rule for a colour decides about its paint, and a colour without a
rule is painted as it is without a theme. The spelling of colours does not matter: drawings whose
colours have the same normal forms have the same code, and neither the mark before the digits of a
colour nor their case nor white space around them is seen in its normal form. -/
theorem drawingBlock_themed (name : String) (drawing : VectorDrawing) :
    ((∃ e, ∀ context, drawingBlock context name drawing = .error e) ∨
      ∃ frames : List InstructionFrame,
        frames.flatMap InstructionFrame.colors = drawing.solidColors ∧
          ∀ context, drawingBlock context name drawing =
            .ok (fillGaps (paintExpression context) frames)) ∧
    (∀ style color,
      paintExpression ⟨.empty, style⟩ color = solidPaint (colorExpression color)) ∧
    (∀ theme style color,
      (∃ before rule after, theme.rules = before ++ rule :: after ∧
          rule.literal = Color.normalize color ∧
          (∀ earlier ∈ before, earlier.literal ≠ Color.normalize color) ∧
          paintExpression ⟨theme, style⟩ color = solidPaint (tokenExpression style rule.token)) ∨
        (∀ rule ∈ theme.rules, rule.literal ≠ Color.normalize color) ∧
          paintExpression ⟨theme, style⟩ color = paintExpression ⟨.empty, style⟩ color) ∧
    (∀ other : VectorDrawing,
      drawing.mapColors Color.normalize = other.mapColors Color.normalize →
        ∀ context, drawingBlock context name drawing = drawingBlock context name other) ∧
    ∀ color color' digits digits', Color.Spells color digits → Color.Spells color' digits' →
      digits.map Char.toUpper = digits'.map Char.toUpper →
        Color.normalize color = Color.normalize color' := by
  refine ⟨?_, paintExpression_empty, paintExpression_cases, ?_, ?_⟩
  · cases hframes : drawingFrames name drawing with
    | error e =>
      refine .inl ⟨e, fun context => ?_⟩
      rw [drawingBlock_eq, hframes]
      rfl
    | ok frames =>
      refine .inr ⟨frames, colors_drawingFrames hframes, fun context => ?_⟩
      rw [drawingBlock_eq, hframes]
      rfl
  · intro other h context
    exact drawingBlock_congr context name h
  · intro color color' digits digits' h h' hcase
    rw [h.normalize_eq, h'.normalize_eq, hcase]

/-- A square with a fill in a given colour, a stroke in another one and a gradient in the first. -/
def paintedSquare (color : String) : VectorDrawing :=
  .square standardSize [.shape ⟨{ Paint.none with
      fill := some (.solid color)
      strokeColor := some "00FF00" }, [.close]⟩,
    .shape ⟨{ Paint.none with
      fill := some (.linearGradient [⟨.zero false, color⟩] ⟨.zero false, .zero false⟩
        ⟨standardSize, standardSize⟩) }, [.close]⟩]

/-- The code of the square does not see how its colour is spelled, and has gaps for the fill and the
stroke of the first shape, of which the theme fills one with a token. -/
theorem paintedSquare_themed :
    let context : CodeContext := ⟨.ofPairs [("#FF0000", "primary")], .standard⟩
    drawingBlock context "Icon" (paintedSquare " 0xff0000") =
        drawingBlock context "Icon" (paintedSquare "FF0000") ∧
      ∃ frames : List InstructionFrame,
        frames.flatMap InstructionFrame.colors = [" 0xff0000", "00FF00"] ∧
          drawingBlock context "Icon" (paintedSquare " 0xff0000") =
            .ok (fillGaps (paintExpression context) frames) ∧
          paintExpression context " 0xff0000" = solidPaint (tokenExpression .standard "primary") ∧
          paintExpression context "00FF00" = solidPaint (colorExpression "00FF00") := by
  intro context
  obtain ⟨hblock, -, -, hspelling, -⟩ := drawingBlock_themed "Icon" (paintedSquare " 0xff0000")
  refine ⟨hspelling _ (by rfl) context, ?_⟩
  rcases hblock with ⟨e, herror⟩ | ⟨frames, hcolors, hframes⟩
  · have hsuccess : (drawingBlock context "Icon" (paintedSquare " 0xff0000")).toBool = true := by
      decide +kernel
    rw [herror context] at hsuccess
    cases hsuccess
  · exact ⟨frames, hcolors, hframes context, by decide, by decide⟩

end DrawingCode
end IconForge
