import IconForge.Code.Render
import Mathlib

/-!
# Templates as pieces

A template stands for a sequence of pieces: characters, and arguments in the places of their
placeholders. Rendering writes the pieces one after another. Templates that are built from texts and
arguments are complete: no percent sign of theirs pairs with what is appended, so their pieces are
those of their parts in order, and their placeholders those of their arguments.
-/

namespace IconForge

inductive Piece where
  | char (c : Char)
  | argument (argument : Argument)
  deriving DecidableEq

namespace Piece

def code : Piece → List Char
  | char c => if c = '%' then ['%', '%'] else [c]
  | argument a => ['%', a.marker]

def argument? : Piece → Option Argument
  | char _ => none
  | argument a => some a

/-- The text of a piece, given how arguments are written. -/
def written (write : Argument → List Char) : Piece → List Char
  | char c => [c]
  | argument a => write a

def ofText (text : String) : List Piece := text.toList.map char

@[simp] theorem ofText_append (first second : String) :
    ofText (first ++ second) = ofText first ++ ofText second := by
  simp [ofText]

end Piece

/-- The pieces of a text with placeholders, given the arguments that fill these. -/
def piecesOf : List Char → List Argument → List Piece
  | [], _ => []
  | ['%'], _ => [.char '%']
  | '%' :: marker :: rest, arguments =>
    if marker = '%' then
      .char '%' :: piecesOf rest arguments
    else
      match arguments with
      | [] => piecesOf rest []
      | argument :: others => .argument argument :: piecesOf rest others
  | c :: rest, arguments => .char c :: piecesOf rest arguments

theorem Argument.marker_ne_percent (a : Argument) : a.marker ≠ '%' := by
  cases a <;> simp [marker]

/-! ### Reading what pieces spell -/

theorem piecesOf_percent (rest : List Char) (arguments : List Argument) :
    piecesOf ('%' :: '%' :: rest) arguments = .char '%' :: piecesOf rest arguments := by
  rw [piecesOf.eq_def]
  rfl

theorem renderText_eq (write : Argument → List Char) (text : List Char)
    (arguments : List Argument) :
    renderText write text arguments = (piecesOf text arguments).flatMap (Piece.written write) := by
  fun_induction renderText write text arguments with
  | case1 => simp [piecesOf]
  | case2 => simp [piecesOf, Piece.written]
  | case3 rest arguments ih => simp [piecesOf_percent, Piece.written, ih]
  | case4 marker rest hmarker ih => simp [piecesOf, hmarker, ih]
  | case5 marker rest hmarker argument others ih => simp [piecesOf, Piece.written, hmarker, ih]
  | case6 c rest arguments hlone hpercent ih =>
    simp [piecesOf, Piece.written, ih]

theorem piecesOf_code_append (pieces : List Piece) (rest : List Char) (arguments : List Argument) :
    piecesOf (pieces.flatMap Piece.code ++ rest) (pieces.filterMap Piece.argument? ++ arguments) =
      pieces ++ piecesOf rest arguments := by
  induction pieces with
  | nil => rfl
  | cons piece others ih =>
    rw [List.flatMap_cons, List.filterMap_cons]
    cases piece with
    | char c =>
      by_cases hc : c = '%'
      · simp [Piece.code, Piece.argument?, hc, piecesOf_percent, ih]
      · simp [Piece.code, Piece.argument?, hc, piecesOf, ih]
    | argument a => simp [Piece.code, Piece.argument?, piecesOf, a.marker_ne_percent, ih]

theorem placeholders_code_append (pieces : List Piece) (rest : List Char) :
    placeholders (pieces.flatMap Piece.code ++ rest) =
      (pieces.filterMap Piece.argument?).map Argument.marker ++ placeholders rest := by
  induction pieces with
  | nil => rfl
  | cons piece others ih =>
    rw [List.flatMap_cons, List.filterMap_cons]
    cases piece with
    | char c =>
      by_cases hc : c = '%'
      · simp [Piece.code, Piece.argument?, hc, placeholders, ih]
      · simp [Piece.code, Piece.argument?, hc, placeholders, ih]
    | argument a => simp [Piece.code, Piece.argument?, placeholders, a.marker_ne_percent, ih]

namespace Template

def pieces (template : Template) : List Piece := piecesOf template.text.toList template.arguments

def ofPieces (pieces : List Piece) : Template :=
  ⟨String.ofList (pieces.flatMap Piece.code), pieces.filterMap Piece.argument?⟩

/-- A template that is made of texts and arguments. -/
def IsBuilt (template : Template) : Prop := ∃ pieces, ofPieces pieces = template

theorem ofPieces_append (first second : List Piece) :
    ofPieces (first ++ second) = ofPieces first ++ ofPieces second := by
  change _ = append _ _
  simp [ofPieces, append]

theorem pieces_ofPieces_append (first : List Piece) (second : Template) :
    (ofPieces first ++ second).pieces = first ++ second.pieces := by
  change (append _ _).pieces = _
  simpa [pieces, ofPieces, append] using
    piecesOf_code_append first second.text.toList second.arguments

theorem pieces_ofPieces (ps : List Piece) : (ofPieces ps).pieces = ps := by
  simpa [pieces, ofPieces, piecesOf] using piecesOf_code_append ps [] []

theorem ofText_eq (text : String) : ofText text = ofPieces (Piece.ofText text) := by
  have hescape (chars : List Char) :
      escapePercent chars = (chars.map Piece.char).flatMap Piece.code := by
    induction chars with
    | nil => rfl
    | cons c others ih => by_cases hc : c = '%' <;> simp [escapePercent, Piece.code, hc, ih]
  have harguments (chars : List Char) :
      (chars.map Piece.char).filterMap Piece.argument? = [] := by
    simp [Piece.argument?]
  rw [ofText, ofPieces, Piece.ofText, hescape, harguments]

theorem ofArgument_eq (a : Argument) : ofArgument a = ofPieces [.argument a] := rfl

/-! ### Templates that are built -/

theorem isBuilt_empty : IsBuilt empty := ⟨[], rfl⟩

@[simp] theorem isBuilt_ofText (text : String) : IsBuilt (ofText text) := ⟨_, (ofText_eq text).symm⟩

@[simp] theorem isBuilt_ofArgument (a : Argument) : IsBuilt (ofArgument a) :=
  ⟨_, (ofArgument_eq a).symm⟩

@[simp] theorem isBuilt_member (symbol : Symbol) : IsBuilt (member symbol) := isBuilt_ofArgument _

@[simp] theorem isBuilt_typeName (symbol : Symbol) : IsBuilt (typeName symbol) :=
  isBuilt_ofArgument _

@[simp] theorem isBuilt_name (text : String) : IsBuilt (name text) := isBuilt_ofArgument _

@[simp] theorem isBuilt_string (text : String) : IsBuilt (string text) := isBuilt_ofArgument _

theorem IsBuilt.append {first second : Template} (hfirst : first.IsBuilt)
    (hsecond : second.IsBuilt) : (first ++ second).IsBuilt := by
  obtain ⟨ps, rfl⟩ := hfirst
  obtain ⟨qs, rfl⟩ := hsecond
  exact ⟨ps ++ qs, ofPieces_append ps qs⟩

@[simp] theorem append_assoc (first second third : Template) :
    first ++ second ++ third = first ++ (second ++ third) := by
  change append (append _ _) _ = append _ (append _ _)
  simp [append, String.append_assoc]

@[simp] theorem isBuilt_append_iff {first second : Template} (hfirst : first.IsBuilt) :
    (first ++ second).IsBuilt ↔ second.IsBuilt := by
  refine ⟨?_, hfirst.append⟩
  rintro ⟨ps, hps⟩
  obtain ⟨qs, rfl⟩ := hfirst
  have hpieces : ps = qs ++ second.pieces := by
    rw [← pieces_ofPieces ps, hps, pieces_ofPieces_append]
  rw [hpieces, ofPieces_append] at hps
  refine ⟨second.pieces, ?_⟩
  change append _ _ = append _ _ at hps
  obtain ⟨text, arguments⟩ := second
  simpa [append, ofPieces] using hps

theorem concat_cons (first : Template) (others : List Template) :
    concat (first :: others) = first ++ concat others := by
  change _ = Template.append _ _
  simp [concat, Template.append, String.join_cons]

theorem concat_singleton (template : Template) : concat [template] = template := by
  simp [concat, String.join_cons]

theorem join_singleton (separator : String) (template : Template) :
    join separator [template] = template := concat_singleton template

theorem join_cons_cons (separator : String) (first second : Template) (others : List Template) :
    join separator (first :: second :: others) =
      first ++ (ofText separator ++ join separator (second :: others)) := by
  rw [join, List.intersperse_cons_cons, concat_cons, concat_cons, join]

theorem arguments_append (first second : Template) :
    (first ++ second).arguments = first.arguments ++ second.arguments := rfl

theorem arguments_join (separator : String) (templates : List Template) :
    (join separator templates).arguments = templates.flatMap arguments := by
  induction templates with
  | nil => rfl
  | cons first others ih =>
    cases others with
    | nil => rw [join_singleton, List.flatMap_singleton]
    | cons second others =>
      rw [join_cons_cons, arguments_append, arguments_append, ih, List.flatMap_cons]
      rfl

theorem IsBuilt.join (separator : String) {templates : List Template}
    (h : ∀ t ∈ templates, t.IsBuilt) : (join separator templates).IsBuilt := by
  induction templates with
  | nil => exact isBuilt_empty
  | cons first others ih =>
    obtain ⟨hfirst, hothers⟩ := List.forall_mem_cons.mp h
    cases others with
    | nil =>
      rw [join_singleton]
      exact hfirst
    | cons second others =>
      rw [join_cons_cons]
      exact hfirst.append ((isBuilt_ofText separator).append (ih hothers))

/-! ### Pieces of compound templates -/

@[simp] theorem pieces_ofText (text : String) : (ofText text).pieces = Piece.ofText text := by
  rw [ofText_eq, pieces_ofPieces]

theorem pieces_ofArgument (a : Argument) : (ofArgument a).pieces = [.argument a] := by
  rw [ofArgument_eq, pieces_ofPieces]

@[simp] theorem pieces_member (symbol : Symbol) :
    (member symbol).pieces = [.argument (.member symbol)] := pieces_ofArgument _

@[simp] theorem pieces_typeName (symbol : Symbol) :
    (typeName symbol).pieces = [.argument (.typeName symbol)] := pieces_ofArgument _

@[simp] theorem pieces_name (text : String) :
    (name text).pieces = [.argument (.name text)] := pieces_ofArgument _

@[simp] theorem pieces_string (text : String) :
    (string text).pieces = [.argument (.string text)] := pieces_ofArgument _

@[simp] theorem pieces_append {first : Template} (hfirst : first.IsBuilt) (second : Template) :
    (first ++ second).pieces = first.pieces ++ second.pieces := by
  obtain ⟨ps, rfl⟩ := hfirst
  rw [pieces_ofPieces_append, pieces_ofPieces]

/-- The pieces of templates that follow a first one, each behind the separator. -/
theorem pieces_join_cons (separator : String) {first : Template} {others : List Template}
    (h : ∀ t ∈ first :: others, t.IsBuilt) :
    (join separator (first :: others)).pieces =
      first.pieces ++ others.flatMap fun t => Piece.ofText separator ++ t.pieces := by
  induction others generalizing first with
  | nil => simp [join_singleton]
  | cons second others ih =>
    obtain ⟨hfirst, hothers⟩ := List.forall_mem_cons.mp h
    rw [join_cons_cons, pieces_append hfirst, pieces_append (isBuilt_ofText separator),
      pieces_ofText, ih hothers]
    simp

/-! ### Rendering and placeholders -/

theorem render_eq (imports : ImportTable) (template : Template) :
    template.render imports = String.ofList
      (template.pieces.flatMap (Piece.written fun a => (a.render imports).toList)) := by
  rw [render, renderText_eq, pieces]

@[simp] theorem render_ofText (imports : ImportTable) (text : String) :
    (ofText text).render imports = text := by
  rw [render_eq, pieces_ofText, Piece.ofText, List.flatMap_map]
  simp [Piece.written]

@[simp] theorem render_ofArgument (imports : ImportTable) (a : Argument) :
    (ofArgument a).render imports = a.render imports := by
  simp [render_eq, pieces_ofArgument, Piece.written]

@[simp] theorem render_append (imports : ImportTable) {first : Template} (hfirst : first.IsBuilt)
    (second : Template) :
    (first ++ second).render imports = first.render imports ++ second.render imports := by
  simp [render_eq, pieces_append hfirst, String.ofList_append]

theorem render_join (imports : ImportTable) (separator : String) {templates : List Template}
    (h : ∀ t ∈ templates, t.IsBuilt) :
    (join separator templates).render imports =
      separator.intercalate (templates.map (render imports)) := by
  induction templates with
  | nil => rfl
  | cons first others ih =>
    obtain ⟨hfirst, hothers⟩ := List.forall_mem_cons.mp h
    cases others with
    | nil => simp [join_singleton]
    | cons second others =>
      rw [join_cons_cons, render_append imports hfirst, render_append imports (isBuilt_ofText _),
        render_ofText, ih hothers]
      simp [String.intercalate_cons_cons, String.append_assoc]

/-- The placeholders of a template are those of its arguments. -/
def IsMatched (template : Template) : Prop :=
  placeholders template.text.toList = template.arguments.map Argument.marker

theorem IsBuilt.isMatched {template : Template} (h : template.IsBuilt) : template.IsMatched := by
  obtain ⟨ps, rfl⟩ := h
  simpa [IsMatched, ofPieces, placeholders] using placeholders_code_append ps []

theorem IsMatched.checked_eq {template : Template} (h : template.IsMatched) :
    checked template.text template.arguments = .ok template := if_pos h

end Template

end IconForge
