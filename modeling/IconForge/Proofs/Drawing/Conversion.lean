import IconForge.Drawing.Check
import IconForge.Proofs.DrawingCode.Nodes

/-!
# Nodes that are read

Nodes are read if each of their shapes can be read by itself, and then they keep their order and
nesting. Otherwise the error is that of the first shape that cannot be read, which is the same error
everywhere but for the place that it names. A place names the same node before and after
(`Node.toVectors_isReading`).
-/

namespace IconForge

/-! ### Checks at places -/

namespace SourceError

def place? : SourceError → Option NodePath
  | malformed => none
  | pathData place .. | invalidColor place _ | notFinite place _ => some place

def movedTo (place : NodePath) : SourceError → SourceError
  | malformed => malformed
  | pathData _ data error => pathData place data error
  | invalidColor _ color => invalidColor place color
  | notFinite _ field => notFinite place field

theorem movedTo_movedTo (e : SourceError) (place other : NodePath) :
    (e.movedTo place).movedTo other = e.movedTo other := by
  cases e <;> rfl

end SourceError

/-- A check has the same outcome at all places, except that an error names its place. -/
inductive IsUniform {α : Type} (check : NodePath → Except SourceError α) : Prop where
  | ok (value : α) (h : ∀ place, check place = .ok value)
  | error (e : SourceError) (hplace : ∀ place, (e.movedTo place).place? = some place)
    (h : ∀ place, check place = .error (e.movedTo place))

namespace IsUniform

variable {α β : Type} {check : NodePath → Except SourceError α}

theorem ok_at (h : IsUniform check) {place : NodePath} {value : α}
    (hvalue : check place = .ok value) (other : NodePath) : check other = .ok value := by
  cases h with
  | ok value' h =>
    rw [h] at hvalue ⊢
    exact hvalue
  | error e hplace h =>
    rw [h] at hvalue
    cases hvalue

theorem error_at (h : IsUniform check) {place : NodePath} {e : SourceError}
    (he : check place = .error e) :
    e.place? = some place ∧ ∀ other, check other = .error (e.movedTo other) := by
  cases h with
  | ok value h =>
    rw [h] at he
    cases he
  | error e' hplace h =>
    rw [h] at he
    cases he
    exact ⟨hplace place, fun other => by rw [h, SourceError.movedTo_movedTo]⟩

protected theorem pure (value : α) : IsUniform fun _ => pure value := .ok value fun _ => rfl

protected theorem bind {next : α → NodePath → Except SourceError β} (hcheck : IsUniform check)
    (hnext : ∀ value, IsUniform (next value)) :
    IsUniform fun place => check place >>= fun value => next value place := by
  cases hcheck with
  | ok value h =>
    simp only [h]
    exact hnext value
  | error e hplace h => exact .error e hplace fun place => by rw [h]; rfl

protected theorem forM {check : α → NodePath → Except SourceError Unit}
    (h : ∀ item, IsUniform (check item)) (items : List α) :
    IsUniform fun place => items.forM fun item => check item place := by
  induction items with
  | nil => exact .pure ()
  | cons item others ih => exact (h item).bind fun _ => ih

protected theorem optional {check : α → NodePath → Except SourceError Unit}
    (h : ∀ item, IsUniform (check item)) (item : Option α) :
    IsUniform fun place => item.elim (pure ()) fun item => check item place := by
  cases item with
  | none => exact .pure ()
  | some item => exact h item

end IsUniform

theorem isUniform_checkFinite (x : Binary32) (field : NumberField) :
    IsUniform (x.checkFinite field) := by
  by_cases hfinite : x.IsFinite
  · exact .ok () fun _ => if_pos hfinite
  · exact .error (.notFinite .root field) (fun _ => rfl) fun _ => if_neg hfinite

theorem isUniform_pointCheck (p : Point) (field : NumberField) : IsUniform (p.check field) :=
  (isUniform_checkFinite p.x field).bind fun _ => isUniform_checkFinite p.y field

theorem isUniform_colorCheck (color : String) : IsUniform (Color.check color) := by
  by_cases hhex : Color.isHex color
  · exact .ok () fun _ => if_pos hhex
  · exact .error (.invalidColor .root color) (fun _ => rfl) fun _ => if_neg hhex

theorem isUniform_stopCheck (stop : ColorStop) : IsUniform fun place => stop.check place :=
  (isUniform_checkFinite stop.offset .stopOffset).bind fun _ => isUniform_colorCheck stop.color

theorem isUniform_fillCheck (fill : Fill) : IsUniform fun place => fill.check place := by
  cases fill with
  | solid color => exact isUniform_colorCheck color
  | linearGradient stops start stop =>
    refine (IsUniform.forM isUniform_stopCheck stops).bind fun _ => ?_
    exact (isUniform_pointCheck start .gradientStart).bind fun _ =>
      isUniform_pointCheck stop .gradientStop
  | radialGradient stops center radius =>
    refine (IsUniform.forM isUniform_stopCheck stops).bind fun _ => ?_
    exact (isUniform_pointCheck center .gradientCenter).bind fun _ =>
      isUniform_checkFinite radius .gradientRadius

theorem Paint.check_eq (paint : Paint) (place : NodePath) :
    paint.check place = (do
      paint.strokeWidth.elim (pure ()) fun width => width.value.checkFinite .strokeWidth place
      paint.fill.elim (pure ()) fun fill => fill.check place
      paint.strokeColor.elim (pure ()) fun color => Color.check color place
      paint.fillAlpha.checkFinite .fillAlpha place
      paint.strokeAlpha.checkFinite .strokeAlpha place
      paint.strokeMiter.checkFinite .strokeMiter place) := by
  obtain ⟨fill, strokeColor, fillAlpha, strokeAlpha, strokeWidth, cap, join, miter, rule⟩ := paint
  cases fill <;> cases strokeColor <;> cases strokeWidth <;>
    simp only [check, Option.elim, pure_bind]

theorem isUniform_paintCheck (paint : Paint) : IsUniform paint.check := by
  rw [funext paint.check_eq]
  refine (IsUniform.optional (fun width : Length => isUniform_checkFinite width.value .strokeWidth)
    paint.strokeWidth).bind fun _ => ?_
  refine (IsUniform.optional isUniform_fillCheck paint.fill).bind fun _ => ?_
  refine (IsUniform.optional isUniform_colorCheck paint.strokeColor).bind fun _ => ?_
  refine (isUniform_checkFinite paint.fillAlpha .fillAlpha).bind fun _ => ?_
  exact (isUniform_checkFinite paint.strokeAlpha .strokeAlpha).bind fun _ =>
    isUniform_checkFinite paint.strokeMiter .strokeMiter

/-! ### Shapes -/

namespace Shape

theorem isUniform_toVector (leaf : Shape String) : IsUniform leaf.toVector := by
  have hparse : IsUniform fun place =>
      (PathData.parse leaf.geometry).mapError (SourceError.pathData place leaf.geometry) := by
    cases PathData.parse leaf.geometry with
    | ok commands => exact .ok commands fun _ => rfl
    | error e => exact .error (.pathData .root leaf.geometry e) (fun _ => rfl) fun _ => rfl
  exact hparse.bind fun commands => (isUniform_paintCheck leaf.paint).bind fun _ =>
    IsUniform.pure (Shape.mk leaf.paint commands)

/-- A shape that can be read by itself, wherever it stands. -/
def IsReadable (leaf : Shape String) : Prop := ∃ read, ∀ place, leaf.toVector place = .ok read

theorem failure?_toVector_eq_none_iff (leaf : Shape String) (place : NodePath) :
    failure? (leaf.toVector place) = none ↔ ¬ ¬ leaf.IsReadable := by
  rw [failure?_eq_none_iff, not_not]
  constructor
  · rintro ⟨read, hread⟩
    exact ⟨read, leaf.isUniform_toVector.ok_at hread⟩
  · rintro ⟨read, hread⟩
    exact ⟨read, hread place⟩

end Shape

/-! ### Nodes -/

namespace Node

theorem isSearch_toVector :
    IsSearch (fun leaf place => failure? (leaf.toVector place))
      (fun node place => failure? (node.toVector place))
      (fun nodes parent index => failure? (toVectors nodes parent index)) where
  shape leaf place := by rw [toVector, failure?_map]
  group children place := by rw [toVector, failure?_map]
  nil parent index := rfl
  cons node others parent index := by rw [toVectors, failure?_bind_bind]

/-- A written node and a node that has been read are of one form, and their shapes correspond. -/
inductive Converts : Node String → Node (List PathCommand) → Prop where
  | shape {leaf : Shape String} {read : Shape (List PathCommand)}
    (h : ∀ place, leaf.toVector place = .ok read) : Converts (.shape leaf) (.shape read)
  | group {children : List (Node String)} {read : List (Node (List PathCommand))}
    (h : List.Forall₂ Converts children read) : Converts (.group children) (.group read)

mutual

theorem toVector_eq_ok_iff (node : Node String) {place : NodePath}
    {read : Node (List PathCommand)} : node.toVector place = .ok read ↔ node.Converts read := by
  match node with
  | .group children =>
    rw [toVector, map_eq_ok_iff]
    simp only [toVectors_eq_ok_iff children]
    constructor
    · rintro ⟨nodes, hnodes, rfl⟩
      exact .group hnodes
    · intro hconverts
      cases hconverts with
      | group hnodes => exact ⟨_, hnodes, rfl⟩
  | .shape leaf =>
    rw [toVector, map_eq_ok_iff]
    constructor
    · rintro ⟨shape, hshape, rfl⟩
      exact .shape (leaf.isUniform_toVector.ok_at hshape)
    · intro hconverts
      cases hconverts with
      | shape hshape => exact ⟨_, hshape place, rfl⟩

theorem toVectors_eq_ok_iff (nodes : List (Node String)) {parent : NodePath} {index : Nat}
    {read : List (Node (List PathCommand))} :
    toVectors nodes parent index = .ok read ↔ List.Forall₂ Converts nodes read := by
  match nodes with
  | [] => simp [toVectors, eq_comm]
  | node :: others =>
    simp only [toVectors, bind_eq_ok_iff, pure_eq_ok_iff, toVector_eq_ok_iff node,
      toVectors_eq_ok_iff others, List.forall₂_cons_left_iff]
    constructor
    · rintro ⟨first, hfirst, rest, hrest, rfl⟩
      exact ⟨first, rest, hfirst, hrest, rfl⟩
    · rintro ⟨first, rest, hfirst, hrest, rfl⟩
      exact ⟨first, hfirst, rest, hrest, rfl⟩

end

theorem rel_getElem? {α β : Type} {R : α → β → Prop} {as : List α} {bs : List β}
    (h : List.Forall₂ R as bs) (i : Nat) : Option.Rel R as[i]? bs[i]? := by
  induction h generalizing i with
  | nil => exact .none
  | cons hfirst hrest ih =>
    cases i with
    | zero => exact .some hfirst
    | succ i => exact ih i

theorem Converts.descend? {node : Node String} {read : Node (List PathCommand)}
    (h : node.Converts read) (steps : List Nat) :
    Option.Rel Converts (node.descend? steps) (read.descend? steps) := by
  induction steps generalizing node read with
  | nil => exact .some h
  | cons index steps ih =>
    cases h with
    | shape hshape => exact .none
    | @group children read hchildren =>
      rw [Node.descend?, Node.descend?]
      have hchild := rel_getElem? hchildren index
      generalize children[index]? = child, read[index]? = child' at hchild ⊢
      cases hchild with
      | none => exact .none
      | some hchild => exact ih hchild

theorem Converts.eq_shape {node : Node String} {vector : Shape (List PathCommand)}
    (h : node.Converts (.shape vector)) :
    ∃ leaf, node = .shape leaf ∧ ∀ place, leaf.toVector place = .ok vector := by
  cases h with
  | shape hshape => exact ⟨_, rfl, hshape⟩

/-- What becomes of nodes that are read one after another below a parent. -/
structure IsReading (nodes : List (Node String)) (parent : NodePath)
    (outcome : Except SourceError (List (Node (List PathCommand)))) : Prop where
  /-- Each shape is read by itself. -/
  succeeds_iff : (∃ read, outcome = .ok read) ↔ ∀ leaf ∈ allShapes nodes, leaf.IsReadable
  /-- Order and nesting are kept. -/
  eq_ok_iff : ∀ read, outcome = .ok read ↔ List.Forall₂ Converts nodes read
  /-- The error is that of the first shape that is not read, and tells its place. -/
  eq_error_iff : ∀ e, outcome = .error e ↔ ∃ steps leaf,
    (Node.group nodes).IsFirst (fun leaf => ¬ leaf.IsReadable) steps leaf ∧
      leaf.toVector (parent.below steps) = .error e ∧ e.place? = some (parent.below steps) ∧
        ∀ place, leaf.toVector place = .error (e.movedTo place)
  /-- Steps lead to the same node before and after. -/
  descend?_rel : ∀ read, outcome = .ok read → ∀ steps,
    Option.Rel Converts ((Node.group nodes).descend? steps) ((Node.group read).descend? steps)
  /-- A shape that has been read and cannot be drawn is told by the place where it is written. -/
  emission_error : ∀ read, outcome = .ok read → ∀ context e,
    DrawingCode.nodeBlocks context read parent 0 = .error e → ∃ steps leaf vector,
      e.place? = some (parent.below steps) ∧
        (Node.group nodes).descend? steps = some (.shape leaf) ∧
          (∀ place, leaf.toVector place = .ok vector) ∧ vector.LacksStops

theorem toVectors_isReading (nodes : List (Node String)) (parent : NodePath) :
    IsReading nodes parent (toVectors nodes parent 0) := by
  have hrel {read : List (Node (List PathCommand))} (hread : toVectors nodes parent 0 = .ok read) :
      Converts (.group nodes) (.group read) := .group ((toVectors_eq_ok_iff nodes).mp hread)
  constructor
  case succeeds_iff =>
    rw [← failure?_eq_none_iff, isSearch_toVector.eq_none_iff Shape.failure?_toVector_eq_none_iff]
    simp only [not_not]
  case eq_ok_iff => exact fun read => toVectors_eq_ok_iff nodes
  case eq_error_iff =>
    intro e
    rw [← failure?_eq_some_iff, isSearch_toVector.eq_some_iff Shape.failure?_toVector_eq_none_iff]
    simp only [failure?_eq_some_iff]
    refine exists_congr fun steps => exists_congr fun leaf => and_congr_right fun _ => ?_
    exact (and_iff_left_of_imp leaf.isUniform_toVector.error_at).symm
  case descend?_rel => exact fun read hread => (hrel hread).descend?
  case emission_error =>
    intro read hread context e he
    obtain ⟨steps, vector, hfirst, fill, -, rfl⟩ :=
      (DrawingCode.nodeBlocks_eq_error_iff read parent).mp he
    have hdescend := (hrel hread).descend? steps
    rw [hfirst.descend?_eq] at hdescend
    generalize hnode : (Node.group nodes).descend? steps = node at hdescend
    cases hdescend with
    | some hconverts =>
      obtain ⟨leaf, rfl, hleaf⟩ := hconverts.eq_shape
      exact ⟨steps, leaf, vector, rfl, hnode, hleaf, hfirst.holds⟩

end Node
end IconForge
