import IconForge.Proofs.Drawing.Reading
import IconForge.Proofs.DrawingCode.Injective
import IconForge.Proofs.Theme.Colors

/-!
# The words of drawing code

The code of a drawing that was read is written in words of five kinds: texts of a fixed vocabulary,
names that are no colours, finite numbers, colours of eight upper-case digits, and tokens of the
theme (`drawingBlock_of_toVector`). So no number in it is infinite or no number at all, and no
colour is malformed. Being written in such words is preserved by every operation that templates are
built with, hence shown for each expression from its parts.
-/

namespace IconForge

open Template (ofText)

/-! ### Digits of colours -/

namespace Color

structure IsCode (digits : String) : Prop where
  length_eq : digits.length = 8
  upper : ∀ c ∈ digits.toList, ('0' ≤ c ∧ c ≤ '9') ∨ ('A' ≤ c ∧ c ≤ 'F')

theorem isCode_digits {color : String} (h : isHex color = true) : IsCode (digits color) := by
  obtain ⟨hlength, hupper⟩ := isHex_iff.mp h
  by_cases hsix : (normalize color).length = 6
  · rw [digits, if_pos hsix]
    constructor
    case length_eq =>
      rw [String.length_append, hsix]
      rfl
    case upper =>
      rw [String.toList_append]
      refine List.forall_mem_append.mpr ⟨?_, hupper⟩
      intro c hc
      obtain rfl : c = 'F' := by simpa using hc
      exact .inr (by decide)
  · rw [digits, if_neg hsix]
    exact ⟨hlength.resolve_left hsix, hupper⟩

end Color

namespace DrawingCode

/-! ### Words -/

inductive Word where
  | text (content : String)
  | argument (a : Argument)
  | number (x : Binary32)
  | color (digits : String)
  /-- A token of the theme, read from a parameter. -/
  | token (parameter name : String)

/-- The texts that the code of every drawing is made of. None of them has a digit. -/
def vocabulary : List String :=
  ["return ", "(name = ", ", defaultWidth = ", ", defaultHeight = ", ", viewportWidth = ",
    ", viewportHeight = ", ").apply", ".build()",
    "fill", "stroke", "fillAlpha", "strokeAlpha", "strokeLineWidth", "strokeLineCap",
    "strokeLineJoin", "strokeLineMiter", "pathFillType",
    " = ", "null", "(", ")", ", ", ".", "f", " to ", ", start = ", ", end = ", ", center = ",
    ", radius = ",
    "close", "moveTo", "lineTo", "horizontalLineTo", "verticalLineTo", "curveTo",
    "reflectiveCurveTo", "quadTo", "reflectiveQuadTo", "arcTo", "Relative", "true", "false"]

namespace Word

def pieces : Word → List Piece
  | text content => Piece.ofText content
  | argument a => [.argument a]
  | number x => Piece.ofText x.text
  | color digits =>
    .argument (.member DrawingLibrary.color) :: Piece.ofText ("(0x" ++ digits ++ ")")
  | token parameter name => Piece.ofText (parameter ++ ".") ++ [.argument (.name name)]

/-- Texts are of the vocabulary; the symbol of colours stands nowhere but in colours, which have
eight digits; a number is finite and written as a numeral of its value. -/
def IsProper (style : CodeStyle) : Word → Prop
  | text content => content ∈ vocabulary
  | argument a => a.symbol? ≠ some DrawingLibrary.color
  | number x => x.IsFinite ∧
    ∃ n, PathData.Numeral.scan x.text.toList = some (n, []) ∧ .ofDecimal n.toDecimal = x
  | color digits => Color.IsCode digits
  | token parameter _ => parameter = style.colorSchemeParam

end Word

/-- A template that is built and written in proper words. -/
structure IsWorded (style : CodeStyle) (template : Template) : Prop where
  built : template.IsBuilt
  words : ∃ words : List Word,
    template.pieces = words.flatMap Word.pieces ∧ ∀ word ∈ words, word.IsProper style

namespace IsWorded

variable {style : CodeStyle}

theorem append {first second : Template} (hfirst : IsWorded style first)
    (hsecond : IsWorded style second) : IsWorded style (first ++ second) := by
  obtain ⟨words, hwords, hproper⟩ := hfirst.words
  obtain ⟨others, hothers, hproper'⟩ := hsecond.words
  refine ⟨hfirst.built.append hsecond.built, words ++ others, ?_, ?_⟩
  · rw [Template.pieces_append hfirst.built, hwords, hothers, List.flatMap_append]
  · exact List.forall_mem_append.mpr ⟨hproper, hproper'⟩

theorem empty : IsWorded style Template.empty :=
  ⟨Template.isBuilt_empty, [], rfl, List.forall_mem_nil _⟩

theorem single {template : Template} (h : template.IsBuilt) (word : Word)
    (hword : word.IsProper style) (hpieces : template.pieces = word.pieces) :
    IsWorded style template := by
  refine ⟨h, [word], ?_, ?_⟩
  · rw [hpieces, List.flatMap_singleton]
  · exact List.forall_mem_singleton.mpr hword

theorem text {content : String} (h : content ∈ vocabulary) : IsWorded style (ofText content) :=
  single (by simp) (.text content) h (Template.pieces_ofText content)

/-- Literals become parts of longer texts before they are parts of a template. -/
theorem textAppend {first second : String} (hfirst : IsWorded style (ofText first))
    (hsecond : IsWorded style (ofText second)) : IsWorded style (ofText (first ++ second)) := by
  have happend := hfirst.append hsecond
  refine ⟨by simp, ?_⟩
  obtain ⟨words, hwords, hproper⟩ := happend.words
  refine ⟨words, ?_, hproper⟩
  rw [← hwords]
  simp

theorem argument {a : Argument} (h : a.symbol? ≠ some DrawingLibrary.color) :
    IsWorded style (Template.ofArgument a) :=
  single (by simp) (.argument a) h (Template.pieces_ofArgument a)

theorem member {symbol : Symbol} (h : symbol ≠ DrawingLibrary.color) :
    IsWorded style (Template.member symbol) :=
  argument fun heq => h (Option.some.inj heq)

theorem number {x : Binary32} (h : x.IsFinite) : IsWorded style (ofText x.text) := by
  obtain ⟨n, hscan, -, hread⟩ := Binary.scan_text h .nil
  rw [List.append_nil] at hscan
  exact single (by simp) (.number x) ⟨h, n, hscan, hread⟩ (Template.pieces_ofText x.text)

theorem literal {x : Binary32} (h : x.IsFinite) : IsWorded style (ofText x.literal) :=
  (number h).textAppend (text (by decide))

theorem join {separator : String} (hseparator : separator ∈ vocabulary)
    {templates : List Template} (h : ∀ t ∈ templates, IsWorded style t) :
    IsWorded style (Template.join separator templates) := by
  induction templates with
  | nil => exact .empty
  | cons first others ih =>
    obtain ⟨hfirst, hothers⟩ := List.forall_mem_cons.mp h
    cases others with
    | nil =>
      rw [Template.join_singleton]
      exact hfirst
    | cons second others =>
      rw [Template.join_cons_cons]
      exact hfirst.append ((text hseparator).append (ih hothers))

end IsWorded

/-! ### Expressions -/

variable {style : CodeStyle} {context : CodeContext}

theorem isWorded_colorExpression {color : String} (h : Color.isHex color = true) :
    IsWorded style (colorExpression color) := by
  apply IsWorded.single (by simp) (.color (Color.digits color)) (Color.isCode_digits h)
  rw [pieces_colorExpression h, Word.pieces]
  simp [Piece.ofText]

theorem isWorded_paintExpression {color : String} (h : Color.isHex color = true) :
    IsWorded context.style (paintExpression context color) := by
  have hpaint {value : Template} (hvalue : IsWorded context.style value) :
      IsWorded context.style
        (Template.member DrawingLibrary.solidColor ++ ofText "(" ++ value ++ ofText ")") :=
    IsWorded.member (by decide)
      |>.append (.text (by decide))
      |>.append hvalue
      |>.append (.text (by decide))
  unfold paintExpression
  cases htoken : context.theme.token? color with
  | some token =>
    apply hpaint
    apply IsWorded.single (by simp) (.token context.style.colorSchemeParam token) rfl
    simp [Word.pieces]
  | none => exact hpaint (isWorded_colorExpression h)

theorem isWorded_pointExpression {p : Point} (h : ∀ x ∈ p.numbers, x.IsFinite) :
    IsWorded style (pointExpression p) := by
  simp only [Point.numbers, List.forall_mem_cons] at h
  obtain ⟨hx, hy, -⟩ := h
  have htext : IsWorded style (ofText ("(" ++ p.x.literal ++ ", " ++ p.y.literal ++ ")")) :=
    IsWorded.text (by decide)
      |>.textAppend (.literal hx)
      |>.textAppend (.text (by decide))
      |>.textAppend (.literal hy)
      |>.textAppend (.text (by decide))
  exact (IsWorded.member (by decide)).append htext

theorem isWorded_lengthExpression {length : Length} (h : length.value.IsFinite) :
    IsWorded style (lengthExpression length) := by
  obtain ⟨value, unit⟩ := length
  cases unit with
  | none => exact .literal h
  | some unit =>
    exact IsWorded.number h
      |>.textAppend (.text (by decide))
      |>.append (.member (by decide))

theorem isWorded_stopsExpression {brush : Symbol} (hbrush : brush ≠ DrawingLibrary.color)
    {stops : List ColorStop} (hoffsets : ∀ x ∈ stops.map ColorStop.offset, x.IsFinite)
    (hcolors : ∀ color ∈ stops.map ColorStop.color, Color.isHex color = true) :
    IsWorded style (stopsExpression brush stops) := by
  have hstops : ∀ t ∈ stops.map stopExpression, IsWorded style t := by
    intro t ht
    obtain ⟨stop, hstop, rfl⟩ := List.mem_map.mp ht
    have hoffset := hoffsets _ (List.mem_map_of_mem hstop)
    have hcolor := hcolors _ (List.mem_map_of_mem hstop)
    exact IsWorded.literal hoffset
      |>.append (.text (by decide))
      |>.append (isWorded_colorExpression hcolor)
  exact IsWorded.member hbrush
    |>.append (.text (by decide))
    |>.append (.join (by decide) hstops)

theorem isWorded_fillExpression {place : NodePath} {fill : Option Fill} {template : Template}
    (hfill : ∀ fill' ∈ fill, IsProperFill fill')
    (h : fillExpression context place fill = .ok template) :
    IsWorded context.style template := by
  match fill with
  | none =>
    cases h
    exact .text (by decide)
  | some (.solid color) =>
    obtain ⟨-, hcolors⟩ := hfill _ rfl
    cases h
    exact isWorded_paintExpression (hcolors color (List.mem_singleton_self color))
  | some (.linearGradient stops start stop) =>
    obtain ⟨hfinite, hcolors⟩ := hfill _ rfl
    simp only [Fill.numbers, List.forall_mem_append] at hfinite
    obtain ⟨⟨hoffsets, hstart⟩, hstop⟩ := hfinite
    rw [fillExpression] at h
    split at h
    · cases h
    · cases h
      have hstops : IsWorded context.style (stopsExpression DrawingLibrary.linearGradient stops) :=
        isWorded_stopsExpression (by decide) hoffsets hcolors
      exact hstops
        |>.append (.text (by decide))
        |>.append (isWorded_pointExpression hstart)
        |>.append (.text (by decide))
        |>.append (isWorded_pointExpression hstop)
        |>.append (.text (by decide))
  | some (.radialGradient stops center radius) =>
    obtain ⟨hfinite, hcolors⟩ := hfill _ rfl
    simp only [Fill.numbers, List.forall_mem_append, List.forall_mem_singleton] at hfinite
    obtain ⟨⟨hoffsets, hcenter⟩, hradius⟩ := hfinite
    rw [fillExpression] at h
    split at h
    · cases h
    · cases h
      have hstops : IsWorded context.style (stopsExpression DrawingLibrary.radialGradient stops) :=
        isWorded_stopsExpression (by decide) hoffsets hcolors
      exact hstops
        |>.append (.text (by decide))
        |>.append (isWorded_pointExpression hcenter)
        |>.append (.text (by decide))
        |>.append (.literal hradius)
        |>.append (.text (by decide))

/-! ### Headers -/

theorem IsWorded.parameter {name : String} (hname : name ∈ vocabulary) {value : Template}
    (hvalue : IsWorded style value) : IsWorded style (parameter name value) :=
  IsWorded.text hname
    |>.append (.text (by decide))
    |>.append hvalue

/-- A parameter whose value is a member of a class; colours are no such members. -/
theorem IsWorded.nestedParameter {name : String} (hname : name ∈ vocabulary)
    (package enclosing value : String) :
    IsWorded style
      (DrawingCode.parameter name (Template.member (.nested package enclosing value))) := by
  apply parameter hname
  apply member
  intro heq
  cases congrArg Symbol.enclosing heq

theorem isWorded_strokeExpression {paint : Paint} (hpaint : IsProperPaint paint) :
    IsWorded context.style (strokeExpression context paint.strokeColor) :=
  isWorded_fillExpression hpaint.stroke (fillExpression_stroke .root paint.strokeColor)

theorem isWorded_of_mem_alphaParameters {name : String} (hname : name ∈ vocabulary)
    {alpha : Binary32} (h : alpha.IsFinite) :
    ∀ t ∈ alphaParameters name alpha, IsWorded style t := by
  intro t ht
  unfold alphaParameters at ht
  split at ht
  · cases ht
  · rw [List.mem_singleton] at ht
    subst ht
    exact .parameter hname (.literal h)

theorem isWorded_of_mem_widthParameters {width : Option Length}
    (h : ∀ length ∈ width, length.value.IsFinite) :
    ∀ t ∈ widthParameters width, IsWorded style t := by
  intro t ht
  cases width with
  | none => cases ht
  | some length =>
    rw [widthParameters, List.mem_singleton] at ht
    subst ht
    exact .parameter (by decide) (isWorded_lengthExpression (h length rfl))

theorem isWorded_of_mem_parameters {paint : Paint} (hpaint : IsProperPaint paint)
    {fill : Template} (hfill : IsWorded context.style fill) :
    ∀ t ∈ parameters context paint fill, IsWorded context.style t := by
  have hfillAlpha := hpaint.finite paint.fillAlpha (by simp [Paint.numbers])
  have hstrokeAlpha := hpaint.finite paint.strokeAlpha (by simp [Paint.numbers])
  have hstroke : IsWorded context.style (parameter "stroke"
      (strokeExpression context paint.strokeColor)) :=
    .parameter (by decide) (isWorded_strokeExpression hpaint)
  have hmiter : IsWorded context.style (parameter "strokeLineMiter"
      (ofText paint.strokeMiter.literal)) :=
    .parameter (by decide) (.literal hpaint.strokeMiter)
  intro t ht
  simp only [parameters, List.mem_append] at ht
  rcases ht with (((ht | ht) | ht) | ht) | ht
  · revert t
    simp only [List.forall_mem_cons]
    exact ⟨.parameter (by decide) hfill, hstroke, List.forall_mem_nil _⟩
  · exact isWorded_of_mem_alphaParameters (by decide) hfillAlpha t ht
  · exact isWorded_of_mem_alphaParameters (by decide) hstrokeAlpha t ht
  · exact isWorded_of_mem_widthParameters hpaint.width t ht
  · revert t
    simp only [List.forall_mem_cons]
    exact ⟨.nestedParameter (by decide) _ _ _, .nestedParameter (by decide) _ _ _, hmiter,
      .nestedParameter (by decide) _ _ _, List.forall_mem_nil _⟩

theorem isWorded_shapeHeader {place : NodePath} {paint : Paint} (hpaint : IsProperPaint paint)
    {header : Template} (h : shapeHeader context place paint = .ok header) :
    IsWorded context.style header := by
  simp only [shapeHeader, bind_eq_ok_iff, pure_eq_ok_iff] at h
  obtain ⟨fill, hfill, rfl⟩ := h
  have hparameters := isWorded_of_mem_parameters hpaint (isWorded_fillExpression hpaint.fill hfill)
  exact IsWorded.member (by decide)
    |>.append (.text (by decide))
    |>.append (.join (by decide) hparameters)
    |>.append (.text (by decide))

theorem isWorded_drawingHeader (name : String) {drawing : VectorDrawing} (h : drawing.IsProper) :
    IsWorded style (drawingHeader name drawing) := by
  obtain ⟨hwidth, hheight, hviewportWidth, hviewportHeight⟩ := isFinite_sizes h
  have hname : IsWorded style (Template.string name) := .argument nofun
  have hviewport : IsWorded style (ofText (", viewportWidth = " ++ drawing.viewportWidth.literal ++
      ", viewportHeight = " ++ drawing.viewportHeight.literal ++ ").apply")) :=
    IsWorded.text (by decide)
      |>.textAppend (.literal hviewportWidth)
      |>.textAppend (.text (by decide))
      |>.textAppend (.literal hviewportHeight)
      |>.textAppend (.text (by decide))
  exact IsWorded.text (by decide)
    |>.append (.member (by decide))
    |>.append (.text (by decide))
    |>.append hname
    |>.append (.text (by decide))
    |>.append (isWorded_lengthExpression hwidth)
    |>.append (.text (by decide))
    |>.append (isWorded_lengthExpression hheight)
    |>.append hviewport

/-! ### Calls -/

theorem isWorded_function (command : PathCommand) : IsWorded style (ofText (callOf command).1) := by
  have hname {absolute : String} (h : absolute ∈ vocabulary) (relative : Bool) :
      IsWorded style (ofText (functionName absolute relative)) := by
    cases relative with
    | false => exact .text h
    | true => exact (IsWorded.text h).textAppend (.text (by decide))
  cases command with
  | close => exact .text (by decide)
  | moveTo relative | lineTo relative | horizontalTo relative | verticalTo relative
  | curveTo relative | reflectiveCurveTo relative | quadTo relative | reflectiveQuadTo relative
  | arcTo relative => exact hname (by decide) relative

theorem isWorded_callArguments {arguments : List CallArgument}
    (h : ∀ a ∈ arguments, a.IsFinite) :
    IsWorded style (ofText (", ".intercalate (arguments.map CallArgument.text))) := by
  have hargument {a : CallArgument} (ha : a.IsFinite) : IsWorded style (ofText a.text) := by
    cases a with
    | number x => exact .literal ha
    | flag b => cases b <;> exact .text (by decide)
  induction arguments with
  | nil => exact .empty
  | cons first others ih =>
    obtain ⟨hfirst, hothers⟩ := List.forall_mem_cons.mp h
    cases others with
    | nil => simpa using hargument hfirst
    | cons second others =>
      rw [List.map_cons, List.map_cons, String.intercalate_cons_cons]
      exact hargument hfirst
        |>.textAppend (.text (by decide))
        |>.textAppend (ih hothers)

theorem isWorded_callText {command : PathCommand} (h : ∀ x ∈ command.numbers, x.IsFinite) :
    IsWorded style (ofText (callText command)) :=
  isWorded_function command
    |>.textAppend (.text (by decide))
    |>.textAppend (isWorded_callArguments (isFinite_of_mem_callOf h))
    |>.textAppend (.text (by decide))

/-! ### Blocks -/

theorem isWorded_shapeBlock {place : NodePath} {shape : Shape (List PathCommand)}
    (hshape : IsProperShape shape) {block : CodeBlock}
    (h : shapeBlock context place shape = .ok block) :
    ∀ instruction ∈ block, IsWorded context.style instruction.template := by
  simp only [shapeBlock, bind_eq_ok_iff, pure_eq_ok_iff] at h
  obtain ⟨header, hheader, rfl⟩ := h
  simp only [List.forall_mem_cons, List.forall_mem_append, List.forall_mem_map]
  refine ⟨isWorded_shapeHeader hshape.paint hheader, ?_, .empty, List.forall_mem_nil _⟩
  exact fun command hcommand => isWorded_callText (hshape.geometry command hcommand)

mutual

theorem isWorded_nodeBlock (node : Node (List PathCommand)) {place : NodePath}
    (hshapes : ∀ shape ∈ node.shapes, IsProperShape shape) {block : CodeBlock}
    (h : nodeBlock context node place = .ok block) :
    ∀ instruction ∈ block, IsWorded context.style instruction.template := by
  match node with
  | .group children =>
    simp only [nodeBlock, bind_eq_ok_iff, pure_eq_ok_iff] at h
    obtain ⟨body, hbody, rfl⟩ := h
    simp only [List.forall_mem_cons, List.forall_mem_append]
    exact ⟨.member (by decide), isWorded_nodeBlocks children hshapes hbody, .empty,
      List.forall_mem_nil _⟩
  | .shape leaf =>
    rw [nodeBlock] at h
    exact isWorded_shapeBlock (hshapes leaf List.mem_cons_self) h

theorem isWorded_nodeBlocks (nodes : List (Node (List PathCommand))) {parent : NodePath}
    {index : Nat} (hshapes : ∀ shape ∈ Node.allShapes nodes, IsProperShape shape)
    {block : CodeBlock} (h : nodeBlocks context nodes parent index = .ok block) :
    ∀ instruction ∈ block, IsWorded context.style instruction.template := by
  match nodes with
  | [] =>
    cases h
    exact List.forall_mem_nil _
  | node :: others =>
    simp only [nodeBlocks, bind_eq_ok_iff, pure_eq_ok_iff] at h
    obtain ⟨first, hfirst, rest, hrest, rfl⟩ := h
    obtain ⟨hnode, hothers⟩ := List.forall_mem_append.mp hshapes
    exact List.forall_mem_append.mpr
      ⟨isWorded_nodeBlock node hnode hfirst, isWorded_nodeBlocks others hothers hrest⟩

end

theorem isWorded_drawingBlock {name : String} {drawing : VectorDrawing} (hproper : drawing.IsProper)
    {block : CodeBlock} (h : drawingBlock context name drawing = .ok block) :
    ∀ instruction ∈ block, IsWorded context.style instruction.template := by
  simp only [drawingBlock, bind_eq_ok_iff, pure_eq_ok_iff] at h
  obtain ⟨body, hbody, rfl⟩ := h
  have hshapes : ∀ shape ∈ Node.allShapes drawing.nodes, IsProperShape shape := by
    intro shape hshape
    exact isProperShape_of_mem hproper hshape
  simp only [List.forall_mem_cons, List.forall_mem_append]
  exact ⟨isWorded_drawingHeader name hproper, isWorded_nodeBlocks drawing.nodes hshapes hbody,
    .text (by decide), List.forall_mem_nil _⟩

/-- Whatever drawing is read, its numbers are finite and its colours hexadecimal, and its code is
written in proper words, with any theme and style. -/
theorem drawingBlock_of_toVector {source : DrawingSource} {drawing : VectorDrawing}
    (hread : source.toVector = .ok drawing) :
    (∀ x ∈ drawing.numbers, x.IsFinite) ∧
      (∀ color ∈ drawing.colors, Color.isHex color = true) ∧
        ∀ (context : CodeContext) (name : String) (block : CodeBlock),
          drawingBlock context name drawing = .ok block →
            ∀ instruction ∈ block, IsWorded context.style instruction.template := by
  have hproper := Drawing.toVector_isProper hread
  refine ⟨hproper.finite, hproper.hexadecimal, ?_⟩
  intro context name block hblock
  exact isWorded_drawingBlock hproper hblock

def shadedPaint : Paint :=
  { Paint.none with
    fill := some (.linearGradient [⟨.zero false, "#ff8800"⟩] ⟨.zero false, .zero false⟩
      ⟨opaqueAlpha, opaqueAlpha⟩)
    strokeColor := some "ff6c707e"
    strokeWidth := some (.plain opaqueAlpha) }

theorem shaded_drawingBlock :
    ∃ drawing block,
      (Drawing.square standardSize [.group [.shape ⟨shadedPaint, "M0 0z"⟩]]).toVector =
        .ok drawing ∧
      drawingBlock ⟨.intellij, .standard⟩ "Shaded" drawing = .ok block ∧
      (∀ x ∈ drawing.numbers, x.IsFinite) ∧
      (∀ color ∈ drawing.colors, Color.isHex color = true) ∧
      ∀ instruction ∈ block, IsWorded .standard instruction.template := by
  have hread : (Drawing.square standardSize [.group [.shape ⟨shadedPaint, "M0 0z"⟩]]).toVector =
      .ok (.square standardSize [.group [.shape
        ⟨shadedPaint, [.moveTo false ⟨.zero false, .zero false⟩, .close]⟩]]) := by
    have hpath : PathData.parse "M0 0z" =
        .ok [.moveTo false ⟨.zero false, .zero false⟩, .close] := by
      cbv
    have hsize : standardSize.IsFinite := by decide +kernel
    have hpaint : (∀ x ∈ shadedPaint.numbers, x.IsFinite) ∧
        ∀ color ∈ shadedPaint.colors, Color.isHex color = true := by
      decide +kernel
    simpa [Drawing.toVector, Drawing.square, Length.densityPixels, Node.toVectors, Node.toVector,
      Shape.toVector, hsize, hpath] using hpaint
  obtain ⟨hfinite, hcolors, hwords⟩ := drawingBlock_of_toVector hread
  exact ⟨_, _, hread, rfl, hfinite, hcolors, hwords ⟨.intellij, .standard⟩ "Shaded" _ rfl⟩

end DrawingCode
end IconForge
