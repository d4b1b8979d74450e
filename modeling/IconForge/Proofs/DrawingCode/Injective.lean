import IconForge.Proofs.DrawingCode.Headers

/-!
# Code tells its drawing

Without a theme the code of an icon determines its drawing (`drawingBlock_injective`): sizes, the
tree of nodes in its order, paints and commands, numbers with their signs and bits, and colours in
their eight digits. The blocks of the nodes are told from the front, each block by its header and
the place where it closes.
-/

namespace IconForge
namespace DrawingCode

open Template (ofText)

variable {context : CodeContext}

/-! ### Shapes -/

/-- A shape of finite numbers and hexadecimal colours. -/
structure IsProperShape (shape : Shape (List PathCommand)) : Prop where
  finite : ∀ x ∈ shape.numbers, x.IsFinite
  hexadecimal : ∀ color ∈ shape.paint.colors, Color.isHex color = true

namespace IsProperShape

variable {shape : Shape (List PathCommand)}

theorem paint (h : IsProperShape shape) : IsProperPaint shape.paint :=
  ⟨fun x hx => h.finite x (List.mem_append_left _ hx), h.hexadecimal⟩

theorem geometry (h : IsProperShape shape) :
    ∀ command ∈ shape.geometry, ∀ x ∈ command.numbers, x.IsFinite :=
  fun command hcommand x hx =>
    h.finite x (List.mem_append_right _ (List.mem_flatMap.mpr ⟨command, hcommand, hx⟩))

end IsProperShape

theorem recovers_command :
    Recovers (fun command : PathCommand => ∀ x ∈ command.numbers, x.IsFinite)
      (fun command => [commandStatement command]) id := by
  intro command other hcommand hother r s heq
  obtain ⟨hstatement, hrest⟩ := List.cons.inj heq
  have htemplate : ofText (callText command) = ofText (callText other) :=
    congrArg Instruction.template hstatement
  have hpieces := congrArg Template.pieces htemplate
  rw [Template.pieces_ofText, Template.pieces_ofText] at hpieces
  have htext := String.toList_inj.mp (char_injective.list_map hpieces)
  exact ⟨callText_inj hcommand hother htext, hrest⟩

/-- A block that begins by closing the one around it. -/
def Closes (block : CodeBlock) : Prop :=
  ∃ tail rest, block = .closeBlockWith tail :: rest

theorem closes_closeBlock (rest : CodeBlock) : Closes ([.closeBlock] ++ rest) :=
  ⟨.empty, rest, rfl⟩

theorem geometry_inj {commands others : List PathCommand}
    (hcommands : ∀ command ∈ commands, ∀ x ∈ command.numbers, x.IsFinite)
    (hothers : ∀ command ∈ others, ∀ x ∈ command.numbers, x.IsFinite) {r s : CodeBlock}
    (hr : Closes r) (hs : Closes s)
    (heq : commands.map commandStatement ++ r = others.map commandStatement ++ s) :
    commands = others ∧ r = s := by
  have hclosing (command : PathCommand) {block : CodeBlock} (h : Closes block) :
      ¬ [commandStatement command] <+: block := by
    obtain ⟨tail, rest, rfl⟩ := h
    rintro ⟨last, heq⟩
    cases (List.cons.inj heq).1
  rw [List.map_eq_flatMap, List.map_eq_flatMap] at heq
  obtain ⟨hviews, hrest⟩ := recovers_command.flatMap hcommands hothers
    (fun command _ => hclosing command hr) (fun command _ => hclosing command hs) heq
  exact ⟨by simpa using hviews, hrest⟩

theorem shapeBlock_ok (hrules : context.theme.rules = []) {place : NodePath}
    {shape : Shape (List PathCommand)} {block : CodeBlock}
    (h : shapeBlock context place shape = .ok block) :
    (∀ stops ∈ gradientStops? shape.paint.fill, stops ≠ []) ∧ ∃ header,
      header.pieces = .argument (.member DrawingLibrary.path) ::
        (Piece.ofText "(" ++ (parametersPieces shape.paint ++ Piece.ofText ")")) ∧
      block = .openBlock header :: (shape.geometry.map commandStatement ++ [.closeBlock]) := by
  simp only [shapeBlock, bind_eq_ok_iff, pure_eq_ok_iff] at h
  obtain ⟨header, hheader, rfl⟩ := h
  obtain ⟨hpieces, hstops⟩ := shapeHeader_ok hrules hheader
  exact ⟨hstops, header, hpieces, rfl⟩

theorem shapeBlock_inj (hrules : context.theme.rules = []) {place place' : NodePath}
    {shape other : Shape (List PathCommand)} (hshape : IsProperShape shape)
    (hother : IsProperShape other) {block block' : CodeBlock}
    (hblock : shapeBlock context place shape = .ok block)
    (hblock' : shapeBlock context place' other = .ok block') {r s : CodeBlock}
    (heq : block ++ r = block' ++ s) :
    shape.mapColors Color.digits = other.mapColors Color.digits ∧ r = s := by
  obtain ⟨hstops, header, hheader, rfl⟩ := shapeBlock_ok hrules hblock
  obtain ⟨hstops', header', hheader', rfl⟩ := shapeBlock_ok hrules hblock'
  rw [List.cons_append, List.cons_append, List.append_assoc, List.append_assoc] at heq
  obtain ⟨hopen, hbody⟩ := List.cons.inj heq
  have hpieces := congrArg (Template.pieces ∘ Instruction.template) hopen
  simp only [Function.comp_apply, Instruction.openBlock, hheader, hheader', List.cons.injEq,
    true_and, List.append_right_inj] at hpieces
  obtain ⟨hpaint, -⟩ := parametersPieces_inj hshape.paint hother.paint hstops hstops' hpieces
  obtain ⟨hgeometry, hrest⟩ := geometry_inj hshape.geometry hother.geometry
    (closes_closeBlock r) (closes_closeBlock s) hbody
  refine ⟨?_, List.append_cancel_left hrest⟩
  rw [Shape.mapColors, Shape.mapColors, hpaint, hgeometry]

/-! ### Nodes -/

theorem exists_nodeBlock_eq_cons {node : Node (List PathCommand)} {place : NodePath}
    {block : CodeBlock} (h : nodeBlock context node place = .ok block) :
    ∃ head rest, block = .openBlock head :: rest := by
  cases node with
  | group children =>
    simp only [nodeBlock, bind_eq_ok_iff, pure_eq_ok_iff] at h
    obtain ⟨body, -, rfl⟩ := h
    exact ⟨_, _, rfl⟩
  | shape leaf =>
    simp only [nodeBlock, shapeBlock, bind_eq_ok_iff, pure_eq_ok_iff] at h
    obtain ⟨header, -, rfl⟩ := h
    exact ⟨_, _, rfl⟩

theorem not_closes_nodeBlock {node : Node (List PathCommand)} {place : NodePath}
    {block : CodeBlock} (h : nodeBlock context node place = .ok block) (rest : CodeBlock) :
    ¬ Closes (block ++ rest) := by
  obtain ⟨head, others, rfl⟩ := exists_nodeBlock_eq_cons h
  rintro ⟨tail, last, heq⟩
  cases (List.cons.inj heq).1

theorem group_ne_shape (hrules : context.theme.rules = []) {place : NodePath}
    {shape : Shape (List PathCommand)} {block body : CodeBlock}
    (h : shapeBlock context place shape = .ok block) (rest : CodeBlock) :
    block ++ rest ≠ .openBlock (Template.member DrawingLibrary.group) :: body := by
  obtain ⟨-, header, hheader, rfl⟩ := shapeBlock_ok hrules h
  intro heq
  have hpieces := congrArg (Template.pieces ∘ Instruction.template) (List.cons.inj heq).1
  simp only [Function.comp_apply, Instruction.openBlock, hheader, Template.pieces_member] at hpieces
  exact absurd (List.cons.inj hpieces).1 (by decide)

mutual

theorem nodeBlock_inj (hrules : context.theme.rules = []) (node other : Node (List PathCommand))
    (hnode : ∀ shape ∈ node.shapes, IsProperShape shape)
    (hother : ∀ shape ∈ other.shapes, IsProperShape shape) {place place' : NodePath}
    {block block' : CodeBlock} (hblock : nodeBlock context node place = .ok block)
    (hblock' : nodeBlock context other place' = .ok block') {r s : CodeBlock}
    (heq : block ++ r = block' ++ s) :
    node.mapColors Color.digits = other.mapColors Color.digits ∧ r = s := by
  match node, other with
  | .group children, .group children' =>
    simp only [nodeBlock, bind_eq_ok_iff, pure_eq_ok_iff] at hblock hblock'
    obtain ⟨body, hbody, rfl⟩ := hblock
    obtain ⟨body', hbody', rfl⟩ := hblock'
    rw [List.cons_append, List.cons_append, List.append_assoc, List.append_assoc] at heq
    obtain ⟨hchildren, hrest⟩ := nodeBlocks_inj hrules children children' hnode hother hbody
      hbody' (closes_closeBlock r) (closes_closeBlock s) (List.cons.inj heq).2
    refine ⟨?_, List.append_cancel_left hrest⟩
    rw [Node.mapColors, Node.mapColors, hchildren]
  | .shape leaf, .shape leaf' =>
    rw [nodeBlock] at hblock hblock'
    have hleaf : IsProperShape leaf := hnode leaf List.mem_cons_self
    have hleaf' : IsProperShape leaf' := hother leaf' List.mem_cons_self
    obtain ⟨hview, hrest⟩ := shapeBlock_inj hrules hleaf hleaf' hblock hblock' heq
    exact ⟨by rw [Node.mapColors, Node.mapColors, hview], hrest⟩
  | .group children, .shape leaf =>
    simp only [nodeBlock, bind_eq_ok_iff, pure_eq_ok_iff] at hblock hblock'
    obtain ⟨body, -, rfl⟩ := hblock
    exact absurd heq.symm (group_ne_shape hrules hblock' s)
  | .shape leaf, .group children =>
    simp only [nodeBlock, bind_eq_ok_iff, pure_eq_ok_iff] at hblock hblock'
    obtain ⟨body, -, rfl⟩ := hblock'
    exact absurd heq (group_ne_shape hrules hblock r)

/-- The blocks of nodes tell the nodes where the block around them is closed. -/
theorem nodeBlocks_inj (hrules : context.theme.rules = [])
    (nodes others : List (Node (List PathCommand)))
    (hnodes : ∀ shape ∈ Node.allShapes nodes, IsProperShape shape)
    (hothers : ∀ shape ∈ Node.allShapes others, IsProperShape shape) {parent parent' : NodePath}
    {index index' : Nat} {block block' : CodeBlock}
    (hblock : nodeBlocks context nodes parent index = .ok block)
    (hblock' : nodeBlocks context others parent' index' = .ok block') {r s : CodeBlock}
    (hr : Closes r) (hs : Closes s) (heq : block ++ r = block' ++ s) :
    Node.mapAllColors Color.digits nodes = Node.mapAllColors Color.digits others ∧ r = s := by
  match nodes, others with
  | [], [] =>
    cases hblock
    cases hblock'
    exact ⟨rfl, heq⟩
  | [], other :: others =>
    cases hblock
    simp only [nodeBlocks, bind_eq_ok_iff, pure_eq_ok_iff] at hblock'
    obtain ⟨first, hfirst, rest, -, rfl⟩ := hblock'
    rw [List.nil_append, List.append_assoc] at heq
    exact absurd (heq ▸ hr) (not_closes_nodeBlock hfirst _)
  | node :: nodes, [] =>
    cases hblock'
    simp only [nodeBlocks, bind_eq_ok_iff, pure_eq_ok_iff] at hblock
    obtain ⟨first, hfirst, rest, -, rfl⟩ := hblock
    rw [List.nil_append, List.append_assoc] at heq
    exact absurd (heq ▸ hs) (not_closes_nodeBlock hfirst _)
  | node :: nodes, other :: others =>
    simp only [nodeBlocks, bind_eq_ok_iff, pure_eq_ok_iff] at hblock hblock'
    obtain ⟨first, hfirst, rest, hrest, rfl⟩ := hblock
    obtain ⟨first', hfirst', rest', hrest', rfl⟩ := hblock'
    obtain ⟨hnode, hnodes⟩ := List.forall_mem_append.mp hnodes
    obtain ⟨hother, hothers⟩ := List.forall_mem_append.mp hothers
    rw [List.append_assoc, List.append_assoc] at heq
    obtain ⟨hview, heq⟩ := nodeBlock_inj hrules node other hnode hother hfirst hfirst' heq
    obtain ⟨hviews, heq⟩ := nodeBlocks_inj hrules nodes others hnodes hothers hrest hrest' hr hs heq
    exact ⟨by rw [Node.mapAllColors, Node.mapAllColors, hview, hviews], heq⟩

end

/-! ### Drawings -/

theorem isProperShape_of_mem {drawing : VectorDrawing} (h : drawing.IsProper)
    {shape : Shape (List PathCommand)} (hshape : shape ∈ Node.allShapes drawing.nodes) :
    IsProperShape shape := by
  constructor
  case finite =>
    intro x hx
    exact h.finite x (List.mem_append_right _ (List.mem_flatMap.mpr ⟨shape, hshape, hx⟩))
  case hexadecimal =>
    intro color hcolor
    exact h.hexadecimal color (List.mem_flatMap.mpr ⟨shape, hshape, hcolor⟩)

theorem isFinite_sizes {drawing : VectorDrawing} (h : drawing.IsProper) :
    drawing.width.value.IsFinite ∧ drawing.height.value.IsFinite ∧
      drawing.viewportWidth.IsFinite ∧ drawing.viewportHeight.IsFinite := by
  have hfinite := h.finite
  simp only [Drawing.numbers, List.forall_mem_append, List.forall_mem_cons] at hfinite
  obtain ⟨⟨hwidth, hheight, hviewportWidth, hviewportHeight, -⟩, -⟩ := hfinite
  exact ⟨hwidth, hheight, hviewportWidth, hviewportHeight⟩

theorem pieces_drawingHeader (name : String) (drawing : VectorDrawing) :
    (drawingHeader name drawing).pieces =
      Piece.ofText "return " ++ ([.argument (.member DrawingLibrary.imageVectorBuilder)] ++
        (Piece.ofText "(name = " ++ ([.argument (.string name)] ++
          (Piece.ofText ", defaultWidth = " ++ ((lengthExpression drawing.width).pieces ++
            (Piece.ofText ", defaultHeight = " ++ ((lengthExpression drawing.height).pieces ++
              (Piece.ofText ", viewportWidth = " ++
                (Piece.ofText drawing.viewportWidth.literal ++
                  (Piece.ofText ", viewportHeight = " ++
                    (Piece.ofText drawing.viewportHeight.literal ++
                      Piece.ofText ").apply"))))))))))) := by
  simp only [drawingHeader, Template.append_assoc, Template.isBuilt_ofText,
    Template.isBuilt_member, Template.isBuilt_string, isBuilt_lengthExpression,
    Template.pieces_append, Template.pieces_ofText, Template.pieces_member,
    Template.pieces_string, Piece.ofText_append, List.append_assoc]

/-- Without a theme no two drawings with different numbers, nodes or colours have the same code. -/
theorem drawingBlock_injective {context : CodeContext} (hrules : context.theme.rules = [])
    {name : String} {drawing other : VectorDrawing} (hdrawing : drawing.IsProper)
    (hother : other.IsProper) {block : CodeBlock}
    (hblock : drawingBlock context name drawing = .ok block)
    (hblock' : drawingBlock context name other = .ok block) :
    drawing.mapColors Color.digits = other.mapColors Color.digits := by
  obtain ⟨hwidth, hheight, hviewportWidth, hviewportHeight⟩ := isFinite_sizes hdrawing
  obtain ⟨hwidth', hheight', hviewportWidth', hviewportHeight'⟩ := isFinite_sizes hother
  simp only [drawingBlock, bind_eq_ok_iff, pure_eq_ok_iff] at hblock hblock'
  obtain ⟨body, hbody, rfl⟩ := hblock
  obtain ⟨body', hbody', heq⟩ := hblock'
  obtain ⟨hopen, hbodies⟩ := List.cons.inj heq.symm
  have hcloses : Closes [.closeBlockWith (ofText ".build()")] := ⟨_, [], rfl⟩
  obtain ⟨hnodes, -⟩ := nodeBlocks_inj hrules drawing.nodes other.nodes
    (fun _ => isProperShape_of_mem hdrawing) (fun _ => isProperShape_of_mem hother) hbody hbody'
    hcloses hcloses hbodies
  have hpieces := congrArg (Template.pieces ∘ Instruction.template) hopen
  simp only [Function.comp_apply, Instruction.openBlock, pieces_drawingHeader,
    List.append_right_inj] at hpieces
  obtain ⟨hw, hpieces⟩ := recovers_length hwidth hwidth' hpieces
  obtain ⟨hh, hpieces⟩ := recovers_length hheight hheight' (List.append_cancel_left hpieces)
  obtain ⟨hvw, hpieces⟩ := recovers_number hviewportWidth hviewportWidth'
    (List.append_cancel_left hpieces)
  obtain ⟨hvh, -⟩ := recovers_number hviewportHeight hviewportHeight'
    (List.append_cancel_left hpieces)
  simp only [Drawing.mapColors, Drawing.mk.injEq]
  exact ⟨hw, hh, hvw, hvh, hnodes⟩

def colored (color : String) : VectorDrawing :=
  .square standardSize
    [.group [.shape ⟨{ Paint.none with fill := some (.solid color) },
      [.moveTo true ⟨opaqueAlpha, .zero true⟩, .close]⟩]]

/-- Two spellings of one colour. -/
theorem colored_code :
    ∃ block,
      drawingBlock ⟨.empty, .standard⟩ "Dot" (colored "#abcdef") = .ok block ∧
        drawingBlock ⟨.empty, .standard⟩ "Dot" (colored " 0xFFABCDEF ") = .ok block ∧
          (colored "#abcdef").mapColors Color.digits =
            (colored " 0xFFABCDEF ").mapColors Color.digits := by
  have hcode : (drawingBlock ⟨.empty, .standard⟩ "Dot" (colored "#abcdef")).toOption =
      (drawingBlock ⟨.empty, .standard⟩ "Dot" (colored " 0xFFABCDEF ")).toOption := by
    decide +kernel
  obtain ⟨block, hblock⟩ :
      ∃ block, drawingBlock ⟨.empty, .standard⟩ "Dot" (colored "#abcdef") = .ok block := ⟨_, rfl⟩
  obtain ⟨block', hblock'⟩ :
      ∃ block, drawingBlock ⟨.empty, .standard⟩ "Dot" (colored " 0xFFABCDEF ") = .ok block :=
    ⟨_, rfl⟩
  rw [hblock, hblock'] at hcode
  obtain rfl : block = block' := Option.some.inj hcode
  exact ⟨block, hblock, hblock', drawingBlock_injective rfl
    ⟨by decide +kernel, by decide +kernel⟩ ⟨by decide +kernel, by decide +kernel⟩ hblock hblock'⟩

end DrawingCode
end IconForge
