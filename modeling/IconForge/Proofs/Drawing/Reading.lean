import IconForge.Drawing.Document
import IconForge.Proofs.Drawing.Contents
import IconForge.Proofs.PathData.Clauses

/-!
# Drawings that are read

Whatever drawing is read, its numbers are finite and its colours hexadecimal
(`Drawing.toVector_isProper`). Path data has no other numbers, as a numeral beyond the range is no
token of a number; the paints and the sizes are checked one by one, each number and each colour.
-/

namespace IconForge

/-! ### Numbers of path data -/

namespace PathData

theorem isFinite_of_ofNumeral {n : Numeral} {value : Binary32}
    (h : Token.ofNumeral n = .number value) : value.IsFinite := by
  by_cases hfinite : (Binary.ofDecimal n.toDecimal : Binary32).IsFinite
  · rw [Token.ofNumeral, if_pos hfinite, Token.number.injEq] at h
    exact h ▸ hfinite
  · rw [Token.ofNumeral, if_neg hfinite] at h
    cases h

theorem ofChar_ne_number (c : Char) (value : Binary32) : Token.ofChar c ≠ .number value := by
  unfold Token.ofChar
  split <;> nofun

theorem isFinite_of_mem_lexFrom {position : Nat} {text : List Char} {value : Binary32}
    (h : .number value ∈ (lexFrom position text).map Lexeme.token) : value.IsFinite := by
  fun_induction lexFrom position text with
  | case1 => cases h
  | case2 position c text hseparator ih => exact ih h
  | case3 position c text hseparator numeral rest hscan stop ih =>
    rw [List.map_cons, List.mem_cons] at h
    rcases h with hfirst | hrest
    · exact isFinite_of_ofNumeral hfirst.symm
    · exact ih hrest
  | case4 position c text hseparator hscan stop ih =>
    rw [List.map_cons, List.mem_cons] at h
    rcases h with hfirst | hrest
    · exact absurd hfirst.symm (ofChar_ne_number c value)
    · exact ih hrest

theorem isFinite_draw (letter : Letter) (isFirst : Bool) {group : List Binary32}
    (h : ∀ x ∈ group, x.IsFinite) : ∀ x ∈ (letter.draw isFirst group).numbers, x.IsFinite := by
  have hnumber (i : Nat) : (group[i]?.getD (.zero false)).IsFinite := by
    cases hi : group[i]? with
    | none => decide
    | some x => exact h x (List.mem_of_getElem? hi)
  obtain ⟨verb, relative⟩ := letter
  cases verb with
  | moveTo => cases isFirst <;> simp [Letter.draw, PathCommand.numbers, Point.numbers, hnumber]
  | _ => simp [Letter.draw, PathCommand.numbers, Point.numbers, hnumber]

theorem Clause.isFinite_commands {clause : Clause} (h : ∀ x ∈ clause.numbers, x.IsFinite) :
    ∀ command ∈ clause.commands, ∀ x ∈ command.numbers, x.IsFinite := by
  intro command hcommand
  unfold commands at hcommand
  split at hcommand
  · rw [List.mem_singleton] at hcommand
    subst hcommand
    nofun
  · obtain ⟨i, hi, rfl⟩ := List.mem_mapIdx.mp hcommand
    obtain ⟨j, -, hgroup⟩ := List.mem_map.mp (List.getElem_mem hi)
    apply isFinite_draw
    intro x hx
    rw [← hgroup] at hx
    exact h x (List.mem_of_mem_drop (List.mem_of_mem_take hx))

theorem isFinite_of_parse {data : String} {drawn : List PathCommand}
    (h : parse data = .ok drawn) : ∀ command ∈ drawn, ∀ x ∈ command.numbers, x.IsFinite := by
  rw [parse, parseLexemes_eq_ok_iff, commandsOfSegments_eq_ok_iff] at h
  obtain ⟨-, -, rfl⟩ := h
  intro command hcommand
  obtain ⟨clause, hclause, hmem⟩ := List.mem_flatMap.mp hcommand
  refine Clause.isFinite_commands ?_ command hmem
  intro x hx
  have htoken : Token.number x ∈ (lex data).map Lexeme.token := by
    rw [tokens_segments]
    refine List.mem_append_left _ (List.mem_flatMap.mpr ⟨clause, hclause, ?_⟩)
    exact List.mem_cons_of_mem _ (List.mem_map_of_mem hx)
  exact isFinite_of_mem_lexFrom htoken

end PathData

/-! ### Checks -/

section Checks

variable {place : NodePath} {result : Unit}

@[simp] theorem Binary.checkFinite_eq_ok_iff {x : Binary32} {field : NumberField} :
    x.checkFinite field place = .ok result ↔ x.IsFinite := by
  unfold checkFinite
  split <;> simp_all

@[simp] theorem Point.check_eq_ok_iff {p : Point} {field : NumberField} :
    p.check field place = .ok result ↔ ∀ x ∈ p.numbers, x.IsFinite := by
  simp [Point.check, numbers]

@[simp] theorem Color.check_eq_ok_iff {color : String} :
    Color.check color place = .ok result ↔ isHex color = true := by
  unfold check
  split <;> simp_all

@[simp] theorem ColorStop.check_eq_ok_iff {colorStop : ColorStop} :
    colorStop.check place = .ok result ↔
      colorStop.offset.IsFinite ∧ Color.isHex colorStop.color = true := by
  simp [ColorStop.check]

@[simp] theorem forM_eq_ok_iff {α ε : Type} {check : α → Except ε Unit} {items : List α} :
    forM items check = .ok result ↔ ∀ item ∈ items, check item = .ok () := by
  induction items with
  | nil => simp
  | cons item others ih =>
    have hunit : (∃ value, check item = .ok value) ↔ check item = .ok () :=
      ⟨fun ⟨(), h⟩ => h, fun h => ⟨(), h⟩⟩
    simp [ih, hunit]

@[simp] theorem Fill.check_eq_ok_iff {fill : Fill} :
    fill.check place = .ok result ↔
      (∀ x ∈ fill.numbers, x.IsFinite) ∧ ∀ color ∈ fill.colors, Color.isHex color = true := by
  cases fill with
  | solid color => simp [Fill.check, numbers, colors]
  | linearGradient stops start stop =>
    simp only [Fill.check, numbers, colors, List.forall_mem_append, List.forall_mem_map]
    simp [forall_and, and_assoc, and_left_comm, and_comm]
  | radialGradient stops center radius =>
    simp only [Fill.check, numbers, colors, List.forall_mem_append, List.forall_mem_map]
    simp [forall_and, and_assoc, and_left_comm, and_comm]

@[simp] theorem Paint.check_eq_ok_iff {paint : Paint} :
    paint.check place = .ok result ↔
      (∀ x ∈ paint.numbers, x.IsFinite) ∧ ∀ color ∈ paint.colors, Color.isHex color = true := by
  obtain ⟨fill, strokeColor, fillAlpha, strokeAlpha, strokeWidth, cap, join, miter, rule⟩ := paint
  cases fill <;> cases strokeColor <;> cases strokeWidth <;>
    simp [check, numbers, colors, or_imp, forall_and, and_assoc, and_left_comm, and_comm]

end Checks

/-! ### Shapes and nodes -/

theorem Shape.toVector_ok {shape : Shape String} {place : NodePath}
    {read : Shape (List PathCommand)} (h : shape.toVector place = .ok read) :
    (∀ x ∈ read.numbers, x.IsFinite) ∧
      ∀ color ∈ read.paint.colors, Color.isHex color = true := by
  simp only [toVector, bind_eq_ok_iff, pure_eq_ok_iff, mapError_eq_ok_iff,
    Paint.check_eq_ok_iff] at h
  obtain ⟨drawn, hdrawn, -, ⟨hfinite, hhexadecimal⟩, rfl⟩ := h
  refine ⟨?_, hhexadecimal⟩
  intro x hx
  rcases List.mem_append.mp hx with hpaint | hgeometry
  · exact hfinite x hpaint
  · obtain ⟨command, hcommand, hmem⟩ := List.mem_flatMap.mp hgeometry
    exact PathData.isFinite_of_parse hdrawn command hcommand x hmem

mutual

theorem Node.toVector_ok (node : Node String) {place : NodePath}
    {read : Node (List PathCommand)} (h : node.toVector place = .ok read) :
    ∀ shape ∈ read.shapes, (∀ x ∈ shape.numbers, x.IsFinite) ∧
      ∀ color ∈ shape.paint.colors, Color.isHex color = true := by
  match node with
  | .group children =>
    rw [toVector, map_eq_ok_iff] at h
    obtain ⟨nodes, hnodes, rfl⟩ := h
    exact toVectors_ok children hnodes
  | .shape leaf =>
    rw [toVector, map_eq_ok_iff] at h
    obtain ⟨shape, hshape, rfl⟩ := h
    rw [shapes, List.forall_mem_singleton]
    exact Shape.toVector_ok hshape

theorem Node.toVectors_ok (nodes : List (Node String)) {parent : NodePath} {index : Nat}
    {read : List (Node (List PathCommand))} (h : Node.toVectors nodes parent index = .ok read) :
    ∀ shape ∈ Node.allShapes read, (∀ x ∈ shape.numbers, x.IsFinite) ∧
      ∀ color ∈ shape.paint.colors, Color.isHex color = true := by
  match nodes with
  | [] =>
    rw [toVectors, Except.ok.injEq] at h
    subst h
    rw [allShapes]
    exact List.forall_mem_nil _
  | node :: others =>
    simp only [toVectors, bind_eq_ok_iff, pure_eq_ok_iff] at h
    obtain ⟨first, hfirst, rest, hrest, rfl⟩ := h
    exact List.forall_mem_append.mpr ⟨toVector_ok node hfirst, toVectors_ok others hrest⟩

end

/-! ### Drawings -/

theorem Drawing.toVector_isProper {source : DrawingSource} {drawing : VectorDrawing}
    (h : source.toVector = .ok drawing) : drawing.IsProper := by
  simp only [toVector, bind_eq_ok_iff, pure_eq_ok_iff, Binary.checkFinite_eq_ok_iff] at h
  obtain ⟨-, hwidth, -, hheight, -, hviewportWidth, -, hviewportHeight, nodes, hnodes, rfl⟩ := h
  have hshapes := Node.toVectors_ok source.nodes hnodes
  constructor
  case finite =>
    intro x hx
    rcases List.mem_append.mp hx with hsize | hshape
    · simp only [List.mem_cons, List.not_mem_nil, or_false] at hsize
      rcases hsize with rfl | rfl | rfl | rfl
      · exact hwidth
      · exact hheight
      · exact hviewportWidth
      · exact hviewportHeight
    · obtain ⟨shape, hmem, hnumber⟩ := List.mem_flatMap.mp hshape
      exact (hshapes shape hmem).1 x hnumber
  case hexadecimal =>
    intro color hcolor
    obtain ⟨shape, hmem, hpaint⟩ := List.mem_flatMap.mp hcolor
    exact (hshapes shape hmem).2 color hpaint

/-- Every icon document that has a drawing is read from a written drawing. -/
theorem VectorDrawing.isProper_of_ofDocument {document : String} {drawing : VectorDrawing}
    (h : ofDocument document = .ok drawing) : drawing.IsProper := by
  unfold ofDocument at h
  split at h
  · cases h
  · exact Drawing.toVector_isProper h

end IconForge
