import IconForge.Proofs.Drawing.Places
import IconForge.Proofs.DrawingCode.Expressions

/-!
# Code of nodes

Nodes have code if all their shapes have, and then each has a block of its own, which the other
nodes and its place have no part in. Otherwise the error is that of the first shape whose gradient
lacks stops, at the place of this shape (`nodeBlocks_isEmission`).
-/

namespace IconForge

/-- A shape that is filled with a gradient without stops. -/
def Shape.LacksStops {γ : Type} (leaf : Shape γ) : Prop :=
  DrawingCode.gradientStops? leaf.paint.fill = some []

namespace DrawingCode

open Template (member)

variable {context : CodeContext}

/-! ### Shapes -/

theorem fillExpression_eq_error_iff {place : NodePath} {fill : Option Fill} {e : CodeError} :
    fillExpression context place fill = .error e ↔
      gradientStops? fill = some [] ∧ ∃ x ∈ fill, e = .malformedFill place x.kind := by
  unfold fillExpression gradientStops?
  split
  · simp
  · simp
  all_goals
    split
    · next hempty =>
      rw [Except.error.injEq, List.isEmpty_iff.mp hempty]
      simp [Option.mem_def, eq_comm (a := e)]
    · next hne =>
      rw [List.isEmpty_iff] at hne
      simp [hne]

theorem fillExpression_eq_ok_at {place : NodePath} {fill : Option Fill} {template : Template}
    (h : fillExpression context place fill = .ok template) (other : NodePath) :
    fillExpression context other fill = .ok template := by
  unfold fillExpression at h
  split at h
  · exact h
  · exact h
  all_goals
    split at h
    · cases h
    · next hne =>
      rw [fillExpression, if_neg hne]
      exact h

theorem shapeHeader_eq_ok_at {place : NodePath} {paint : Paint} {header : Template}
    (h : shapeHeader context place paint = .ok header) (other : NodePath) :
    shapeHeader context other paint = .ok header := by
  simp only [shapeHeader, bind_eq_ok_iff] at h ⊢
  obtain ⟨fill, hfill, hheader⟩ := h
  exact ⟨fill, fillExpression_eq_ok_at hfill other, hheader⟩

theorem shapeBlock_eq_error_iff {place : NodePath} {leaf : Shape (List PathCommand)}
    {e : CodeError} :
    shapeBlock context place leaf = .error e ↔
      leaf.LacksStops ∧ ∃ fill ∈ leaf.paint.fill, e = .malformedFill place fill.kind := by
  simp only [shapeBlock, shapeHeader, bind_eq_error_iff, pure_ne_error, and_false, exists_false,
    or_false]
  exact fillExpression_eq_error_iff

theorem failure?_shapeBlock_eq_none_iff (context : CodeContext) (leaf : Shape (List PathCommand))
    (place : NodePath) :
    failure? (shapeBlock context place leaf) = none ↔ ¬ leaf.LacksStops := by
  rw [Option.eq_none_iff_forall_ne_some]
  simp only [ne_eq, failure?_eq_some_iff, shapeBlock_eq_error_iff]
  constructor
  · intro hnone hlacks
    cases hfill : leaf.paint.fill with
    | none => simp [Shape.LacksStops, gradientStops?, hfill] at hlacks
    | some fill => exact hnone _ ⟨hlacks, fill, hfill, rfl⟩
  · rintro hstops e ⟨hlacks, -⟩
    exact hstops hlacks

/-! ### Nodes -/

theorem isSearch_nodeBlock (context : CodeContext) :
    Node.IsSearch (fun leaf place => failure? (shapeBlock context place leaf))
      (fun node place => failure? (nodeBlock context node place))
      (fun nodes parent index => failure? (nodeBlocks context nodes parent index)) where
  shape leaf place := by rw [nodeBlock]
  group children place := by rw [nodeBlock, bind_pure_comp, failure?_map]
  nil parent index := rfl
  cons node others parent index := by rw [nodeBlocks, failure?_bind_bind]

theorem nodeBlocks_eq_error_iff (nodes : List (Node (List PathCommand))) (parent : NodePath)
    {e : CodeError} :
    nodeBlocks context nodes parent 0 = .error e ↔ ∃ steps leaf,
      (Node.group nodes).IsFirst Shape.LacksStops steps leaf ∧
        ∃ fill ∈ leaf.paint.fill, e = .malformedFill (parent.below steps) fill.kind := by
  rw [← failure?_eq_some_iff,
    (isSearch_nodeBlock context).eq_some_iff (failure?_shapeBlock_eq_none_iff context)]
  simp only [failure?_eq_some_iff, shapeBlock_eq_error_iff]
  refine exists_congr fun steps => exists_congr fun leaf => and_congr_right fun hfirst => ?_
  exact and_iff_right hfirst.holds

theorem drawingBlock_error {name : String} {drawing : VectorDrawing} {e : CodeError}
    (h : drawingBlock context name drawing = .error e) :
    ∃ place kind, e = .malformedFill place kind := by
  simp only [drawingBlock, bind_eq_error_iff, pure_ne_error, and_false, exists_false,
    or_false] at h
  obtain ⟨steps, leaf, -, fill, -, rfl⟩ := (nodeBlocks_eq_error_iff drawing.nodes .root).mp h
  exact ⟨_, _, rfl⟩

/-- The block that a node is drawn by, wherever it stands: one statement for each command of a shape,
and the blocks of the children of a group in their order. -/
inductive Draws (context : CodeContext) : Node (List PathCommand) → CodeBlock → Prop where
  | shape {leaf : Shape (List PathCommand)} {header : Template}
    (h : ∀ place, shapeHeader context place leaf.paint = .ok header) :
    Draws context (.shape leaf)
      (.openBlock header :: (leaf.geometry.map commandStatement ++ [.closeBlock]))
  | group {children : List (Node (List PathCommand))} {blocks : List CodeBlock}
    (h : List.Forall₂ (Draws context) children blocks) :
    Draws context (.group children)
      (.openBlock (member DrawingLibrary.group) :: (blocks.flatten ++ [.closeBlock]))

mutual

theorem nodeBlock_eq_ok_iff (node : Node (List PathCommand)) {place : NodePath}
    {block : CodeBlock} :
    nodeBlock context node place = .ok block ↔ Draws context node block := by
  match node with
  | .group children =>
    simp only [nodeBlock, bind_eq_ok_iff, pure_eq_ok_iff, nodeBlocks_eq_ok_iff children]
    constructor
    · rintro ⟨_, ⟨blocks, hblocks, rfl⟩, rfl⟩
      exact .group hblocks
    · intro hdraws
      cases hdraws with
      | group hblocks => exact ⟨_, ⟨_, hblocks, rfl⟩, rfl⟩
  | .shape leaf =>
    simp only [nodeBlock, shapeBlock, bind_eq_ok_iff, pure_eq_ok_iff]
    constructor
    · rintro ⟨header, hheader, rfl⟩
      exact .shape (shapeHeader_eq_ok_at hheader)
    · intro hdraws
      cases hdraws with
      | shape hheader => exact ⟨_, hheader place, rfl⟩

theorem nodeBlocks_eq_ok_iff (nodes : List (Node (List PathCommand))) {parent : NodePath}
    {index : Nat} {block : CodeBlock} :
    nodeBlocks context nodes parent index = .ok block ↔
      ∃ blocks, List.Forall₂ (Draws context) nodes blocks ∧ block = blocks.flatten := by
  match nodes with
  | [] => simp [nodeBlocks, eq_comm]
  | node :: others =>
    simp only [nodeBlocks, bind_eq_ok_iff, pure_eq_ok_iff, nodeBlock_eq_ok_iff node,
      nodeBlocks_eq_ok_iff others, List.forall₂_cons_left_iff]
    constructor
    · rintro ⟨first, hfirst, _, ⟨blocks, hblocks, rfl⟩, rfl⟩
      exact ⟨first :: blocks, ⟨first, blocks, hfirst, hblocks, rfl⟩, List.flatten_cons.symm⟩
    · rintro ⟨_, ⟨first, blocks, hfirst, hblocks, rfl⟩, rfl⟩
      exact ⟨first, hfirst, _, ⟨blocks, hblocks, rfl⟩, List.flatten_cons.symm⟩

end

/-- Of two gradients without stops the first is told. -/
example (context : CodeContext) (p : Point) :
    let plain : Shape (List PathCommand) := ⟨.none, []⟩
    let linear := { plain with paint.fill := some (.linearGradient [] p p) }
    let radial := { plain with paint.fill := some (.radialGradient [] p (.zero false)) }
    nodeBlocks context [.shape plain, .group [.shape plain, .shape linear], .shape radial] .root 0 =
      .error (.malformedFill ⟨[1, 1]⟩ "linear gradient") :=
  rfl

end DrawingCode
end IconForge
