import IconForge.DrawingCode.Drawing
import IconForge.Proofs.Code.Outline
import IconForge.Proofs.Results

/-!
# How the code of drawings is built

Every expression in the code of a drawing is built from texts and arguments, and the blocks of its
nodes are nested as the nodes are.
-/

namespace IconForge
namespace DrawingCode

open Template (IsBuilt)

variable {context : CodeContext}

/-! ### Expressions -/

@[simp] theorem isBuilt_colorExpression (color : String) : (colorExpression color).IsBuilt := by
  simp [colorExpression]

@[simp] theorem isBuilt_paintExpression (context : CodeContext) (color : String) :
    (paintExpression context color).IsBuilt := by
  unfold paintExpression
  cases context.theme.token? color <;> simp

@[simp] theorem isBuilt_pointExpression (p : Point) : (pointExpression p).IsBuilt := by
  simp [pointExpression]

@[simp] theorem isBuilt_lengthExpression (length : Length) : (lengthExpression length).IsBuilt := by
  obtain ⟨value, unit⟩ := length
  cases unit <;> simp [lengthExpression]

@[simp] theorem isBuilt_stopExpression (stop : ColorStop) : (stopExpression stop).IsBuilt := by
  simp [stopExpression]

@[simp] theorem isBuilt_stopsExpression (brush : Symbol) (stops : List ColorStop) :
    (stopsExpression brush stops).IsBuilt := by
  have hjoin : (Template.join ", " (stops.map stopExpression)).IsBuilt :=
    IsBuilt.join _ (by simp)
  simp [stopsExpression, hjoin]

theorem isBuilt_fillExpression {place : NodePath} {fill : Option Fill} {template : Template}
    (h : fillExpression context place fill = .ok template) : template.IsBuilt := by
  unfold fillExpression at h
  split at h
  · cases h
    simp
  · cases h
    simp
  all_goals
    split at h
    · cases h
    · cases h
      simp

@[simp] theorem isBuilt_strokeExpression (context : CodeContext) (color : Option String) :
    (strokeExpression context color).IsBuilt := by
  cases color <;> simp [strokeExpression]

@[simp] theorem IsBuilt.parameter {value : Template} (h : value.IsBuilt) (name : String) :
    (parameter name value).IsBuilt := by
  simp [DrawingCode.parameter, h]

theorem isBuilt_of_mem_parameters (context : CodeContext) (paint : Paint) {fill : Template}
    (hfill : fill.IsBuilt) : ∀ t ∈ parameters context paint fill, t.IsBuilt := by
  have halpha (name : String) (alpha : Binary32) : ∀ t ∈ alphaParameters name alpha, t.IsBuilt := by
    unfold alphaParameters
    split <;> simp
  have hwidth (width : Option Length) : ∀ t ∈ widthParameters width, t.IsBuilt := by
    cases width <;> simp [widthParameters]
  intro t ht
  simp only [parameters, List.mem_append] at ht
  rcases ht with (((ht | ht) | ht) | ht) | ht
  · revert t
    simp [hfill]
  · exact halpha _ _ t ht
  · exact halpha _ _ t ht
  · exact hwidth _ t ht
  · revert t
    simp

theorem isBuilt_shapeHeader {place : NodePath} {paint : Paint} {header : Template}
    (h : shapeHeader context place paint = .ok header) : header.IsBuilt := by
  simp only [shapeHeader, bind_eq_ok_iff, pure_eq_ok_iff] at h
  obtain ⟨fill, hfill, rfl⟩ := h
  have hbuilt := isBuilt_of_mem_parameters context paint (isBuilt_fillExpression hfill)
  simp [IsBuilt.join ", " hbuilt]

@[simp] theorem isBuilt_drawingHeader (name : String) (drawing : VectorDrawing) :
    (drawingHeader name drawing).IsBuilt := by
  simp [drawingHeader]

/-! ### Blocks -/

theorem isOutlined_statements (commands : List PathCommand) :
    CodeBlock.IsOutlined (commands.map commandStatement) := by
  induction commands with
  | nil => exact .nil
  | cons command others ih =>
    have hfirst := CodeBlock.IsOutlined.statement
      (Template.isBuilt_ofText (callText command)).isMatched
    exact hfirst.append ih

theorem isOutlined_shapeBlock {place : NodePath} {shape : Shape (List PathCommand)}
    {block : CodeBlock} (h : shapeBlock context place shape = .ok block) : block.IsOutlined := by
  simp only [shapeBlock, bind_eq_ok_iff, pure_eq_ok_iff] at h
  obtain ⟨header, hheader, rfl⟩ := h
  exact .braces (isBuilt_shapeHeader hheader).isMatched (isOutlined_statements shape.geometry)
    Template.isBuilt_empty.isMatched

mutual

theorem isOutlined_nodeBlock (node : Node (List PathCommand)) {place : NodePath}
    {block : CodeBlock} (h : nodeBlock context node place = .ok block) : block.IsOutlined := by
  match node with
  | .group children =>
    simp only [nodeBlock, bind_eq_ok_iff, pure_eq_ok_iff] at h
    obtain ⟨body, hbody, rfl⟩ := h
    exact .braces (Template.isBuilt_member _).isMatched (isOutlined_nodeBlocks children hbody)
      Template.isBuilt_empty.isMatched
  | .shape leaf =>
    rw [nodeBlock] at h
    exact isOutlined_shapeBlock h

theorem isOutlined_nodeBlocks (nodes : List (Node (List PathCommand))) {parent : NodePath}
    {index : Nat} {block : CodeBlock} (h : nodeBlocks context nodes parent index = .ok block) :
    block.IsOutlined := by
  match nodes with
  | [] =>
    cases h
    exact .nil
  | node :: others =>
    simp only [nodeBlocks, bind_eq_ok_iff, pure_eq_ok_iff] at h
    obtain ⟨first, hfirst, rest, hrest, rfl⟩ := h
    exact (isOutlined_nodeBlock node hfirst).append (isOutlined_nodeBlocks others hrest)

end

theorem isOutlined_drawingBlock {name : String} {drawing : VectorDrawing} {block : CodeBlock}
    (h : drawingBlock context name drawing = .ok block) : block.IsOutlined := by
  simp only [drawingBlock, bind_eq_ok_iff, pure_eq_ok_iff] at h
  obtain ⟨body, hbody, rfl⟩ := h
  exact .braces (isBuilt_drawingHeader name drawing).isMatched
    (isOutlined_nodeBlocks drawing.nodes hbody) (Template.isBuilt_ofText _).isMatched

end DrawingCode
end IconForge
