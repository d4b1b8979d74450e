import IconForge.Proofs.DrawingCode.Expressions

/-!
# Headers tell their paints

The call that opens the block of a shape tells its whole paint: each parameter ends where the next
one begins, and a parameter that is left out is told by the name of the one that follows.
-/

namespace IconForge
namespace DrawingCode

open Template (ofText)

variable {context : CodeContext}

/-- What stands between the value of a parameter and the value of the next one. -/
def parameterMark (name : String) : List Piece :=
  Piece.ofText ", " ++ (Piece.ofText name ++ Piece.ofText " = ")

def shownAlpha (alpha : Binary32) : Option Binary32 :=
  if alpha = opaqueAlpha then none else some alpha

theorem shownAlpha_injective : Function.Injective shownAlpha := by
  intro alpha other h
  unfold shownAlpha at h
  split at h
  · next hsolid =>
    split at h
    · next hsolid' => rw [hsolid, hsolid']
    · cases h
  · split at h
    · cases h
    · exact Option.some.inj h

/-- The parameters behind those that may be left out. -/
def lastPieces (paint : Paint) : List Piece :=
  parameterMark "strokeLineCap" ++
    .argument (.member (DrawingLibrary.strokeCap paint.strokeCap.name)) ::
      (parameterMark "strokeLineJoin" ++
        .argument (.member (DrawingLibrary.strokeJoin paint.strokeJoin.name)) ::
          (parameterMark "strokeLineMiter" ++ (Piece.ofText paint.strokeMiter.literal ++
            (parameterMark "pathFillType" ++
              [.argument (.member (DrawingLibrary.pathFillType paint.fillRule.name))]))))

def alphaPieces (name : String) (alpha : Binary32) : List Piece :=
  optionalCode (parameterMark name) (fun x => Piece.ofText (Binary.literal x)) (shownAlpha alpha)

def widthPieces (width : Option Length) : List Piece :=
  optionalCode (parameterMark "strokeLineWidth") (fun width => (lengthExpression width).pieces)
    width

/-- The pieces of the parameters of a shape without a theme. -/
def parametersPieces (paint : Paint) : List Piece :=
  Piece.ofText "fill" ++ (Piece.ofText " = " ++ (fillPieces paint.fill ++
    (parameterMark "stroke" ++ (fillPieces (paint.strokeColor.map .solid) ++
      (alphaPieces "fillAlpha" paint.fillAlpha ++ (alphaPieces "strokeAlpha" paint.strokeAlpha ++
        (widthPieces paint.strokeWidth ++ lastPieces paint)))))))

theorem fillExpression_stroke (place : NodePath) (color : Option String) :
    fillExpression context place (color.map .solid) = .ok (strokeExpression context color) := by
  cases color with
  | none => rfl
  | some color => rfl

theorem pieces_parameter (name : String) (value : Template) :
    (parameter name value).pieces =
      Piece.ofText name ++ (Piece.ofText " = " ++ value.pieces) := by
  simp [parameter]

theorem separated_parameter (name : String) (value : Template) :
    Piece.ofText ", " ++ (parameter name value).pieces = parameterMark name ++ value.pieces := by
  rw [pieces_parameter, parameterMark, List.append_assoc, List.append_assoc]

theorem flatMap_alphaParameters (name : String) (alpha : Binary32) :
    ((alphaParameters name alpha).flatMap fun t => Piece.ofText ", " ++ t.pieces) =
      alphaPieces name alpha := by
  unfold alphaParameters alphaPieces shownAlpha
  split
  · rfl
  · rw [List.flatMap_singleton, separated_parameter, Template.pieces_ofText]
    rfl

theorem flatMap_widthParameters (width : Option Length) :
    ((widthParameters width).flatMap fun t => Piece.ofText ", " ++ t.pieces) =
      widthPieces width := by
  cases width with
  | none => rfl
  | some width =>
    rw [widthParameters, List.flatMap_singleton, separated_parameter]
    rfl

theorem pieces_parameters {paint : Paint} {fill : Template}
    (hfill : fill.IsBuilt) (hpieces : fill.pieces = fillPieces paint.fill)
    (hstroke : (strokeExpression context paint.strokeColor).pieces =
      fillPieces (paint.strokeColor.map .solid)) :
    (Template.join ", " (parameters context paint fill)).pieces = parametersPieces paint := by
  have hlist : (Template.join ", " (parameters context paint fill)).pieces =
      (parameter "fill" fill).pieces ++
        (parameters context paint fill).tail.flatMap fun t => Piece.ofText ", " ++ t.pieces :=
    Template.pieces_join_cons ", " (isBuilt_of_mem_parameters context paint hfill)
  rw [hlist, pieces_parameter, hpieces, parametersPieces, List.append_assoc, List.append_assoc,
    parameters]
  simp only [List.cons_append, List.nil_append, List.tail_cons, List.flatMap_append,
    List.flatMap_cons, List.flatMap_nil, flatMap_alphaParameters, flatMap_widthParameters,
    separated_parameter, hstroke, Template.pieces_member, Template.pieces_ofText, lastPieces,
    List.append_assoc, List.append_nil]

theorem shapeHeader_ok (hrules : context.theme.rules = []) {place : NodePath} {paint : Paint}
    {header : Template} (h : shapeHeader context place paint = .ok header) :
    header.pieces = .argument (.member DrawingLibrary.path) ::
        (Piece.ofText "(" ++ (parametersPieces paint ++ Piece.ofText ")")) ∧
      ∀ stops ∈ gradientStops? paint.fill, stops ≠ [] := by
  simp only [shapeHeader, bind_eq_ok_iff, pure_eq_ok_iff] at h
  obtain ⟨fill, hfill, rfl⟩ := h
  obtain ⟨hpieces, hstops⟩ := fillExpression_ok hrules hfill
  obtain ⟨hstroke, -⟩ := fillExpression_ok hrules (fillExpression_stroke place paint.strokeColor)
  have hbuilt := isBuilt_fillExpression hfill
  have hjoin := Template.IsBuilt.join ", " (isBuilt_of_mem_parameters context paint hbuilt)
  refine ⟨?_, hstops⟩
  simp only [Template.isBuilt_member, Template.isBuilt_ofText, Template.pieces_append,
    Template.append_assoc, Template.pieces_member, Template.pieces_ofText, hjoin,
    pieces_parameters hbuilt hpieces hstroke]
  rfl

/-! ### Choices -/

theorem strokeCap_name_injective : Function.Injective StrokeCap.name := by
  intro cap other h
  cases cap <;> cases other <;> first | rfl | exact absurd h (by decide)

theorem strokeJoin_name_injective : Function.Injective StrokeJoin.name := by
  intro join other h
  cases join <;> cases other <;> first | rfl | exact absurd h (by decide)

theorem fillRule_name_injective : Function.Injective FillRule.name := by
  intro rule other h
  cases rule <;> cases other <;> first | rfl | exact absurd h (by decide)

theorem nested_inj {package enclosing name other : String} {r s : List Piece}
    (h : Piece.argument (.member (.nested package enclosing name)) :: r =
      .argument (.member (.nested package enclosing other)) :: s) : name = other ∧ r = s := by
  obtain ⟨hpiece, hrest⟩ := List.cons.inj h
  exact ⟨congrArg Symbol.name (Argument.member.inj (Piece.argument.inj hpiece)), hrest⟩

/-! ### Paints -/

/-- A paint of finite numbers and hexadecimal colours. -/
structure IsProperPaint (paint : Paint) : Prop where
  finite : ∀ x ∈ paint.numbers, x.IsFinite
  hexadecimal : ∀ color ∈ paint.colors, Color.isHex color = true

namespace IsProperPaint

variable {paint : Paint}

theorem fill (h : IsProperPaint paint) : ∀ fill ∈ paint.fill, IsProperFill fill := by
  rintro fill hfill
  rw [Option.mem_def] at hfill
  constructor
  case finite =>
    intro x hx
    exact h.finite x (by simp [Paint.numbers, hfill, hx])
  case hexadecimal =>
    intro color hcolor
    exact h.hexadecimal color (by simp [Paint.colors, hfill, hcolor])

theorem stroke (h : IsProperPaint paint) :
    ∀ fill ∈ paint.strokeColor.map Fill.solid, IsProperFill fill := by
  rintro fill hfill
  rw [Option.mem_def, Option.map_eq_some_iff] at hfill
  obtain ⟨color, hcolor, rfl⟩ := hfill
  constructor
  case finite => simp [Fill.numbers]
  case hexadecimal =>
    have hmem : color ∈ paint.colors := by simp [Paint.colors, hcolor]
    simpa [Fill.colors] using h.hexadecimal color hmem

theorem alpha (h : IsProperPaint paint) {alpha : Binary32} (hmem : alpha ∈ paint.numbers) :
    ∀ x ∈ shownAlpha alpha, x.IsFinite := by
  intro x hx
  unfold shownAlpha at hx
  split at hx
  · cases hx
  · cases hx
    exact h.finite _ hmem

theorem fillAlpha (h : IsProperPaint paint) : ∀ x ∈ shownAlpha paint.fillAlpha, x.IsFinite :=
  h.alpha (by simp [Paint.numbers])

theorem strokeAlpha (h : IsProperPaint paint) : ∀ x ∈ shownAlpha paint.strokeAlpha, x.IsFinite :=
  h.alpha (by simp [Paint.numbers])

theorem strokeMiter (h : IsProperPaint paint) : paint.strokeMiter.IsFinite :=
  h.finite _ (by simp [Paint.numbers])

theorem width (h : IsProperPaint paint) :
    ∀ width ∈ paint.strokeWidth, width.value.IsFinite := by
  intro width hwidth
  rw [Option.mem_def] at hwidth
  exact h.finite _ (by simp [Paint.numbers, hwidth])

end IsProperPaint

theorem solid_map_inj {color other : Option String}
    (h : (color.map Fill.solid).map (Fill.mapColors Color.digits) =
      (other.map Fill.solid).map (Fill.mapColors Color.digits)) :
    color.map Color.digits = other.map Color.digits := by
  cases color with
  | none =>
    cases other with
    | none => rfl
    | some color' => cases h
  | some color =>
    cases other with
    | none => cases h
    | some color' => exact congrArg some (Fill.solid.inj (Option.some.inj h))

theorem parametersPieces_inj {paint other : Paint} (hpaint : IsProperPaint paint)
    (hother : IsProperPaint other) (hne : ∀ stops ∈ gradientStops? paint.fill, stops ≠ [])
    (hne' : ∀ stops ∈ gradientStops? other.fill, stops ≠ []) {r s : List Piece}
    (heq : parametersPieces paint ++ r = parametersPieces other ++ s) :
    paint.mapColors Color.digits = other.mapColors Color.digits ∧ r = s := by
  have hstrokes (color : Option String) :
      ∀ stops ∈ gradientStops? (color.map Fill.solid), stops ≠ [] := by
    cases color with
    | none => nofun
    | some color => nofun
  simp only [parametersPieces, List.append_assoc, List.append_right_inj] at heq
  obtain ⟨hfill, heq⟩ := fillPieces_inj hpaint.fill hother.fill hne hne' heq
  obtain ⟨hstroke, heq⟩ := fillPieces_inj hpaint.stroke hother.stroke (hstrokes _) (hstrokes _)
    (List.append_cancel_left heq)
  have hlast (mark : List Piece) (hmark : Apart mark (parameterMark "strokeLineCap"))
      (paint : Paint) (rest : List Piece) : ¬ mark <+: lastPieces paint ++ rest := by
    rw [lastPieces, List.append_assoc]
    exact hmark.not_prefix_append _
  have hwidths (mark : List Piece) (hmark : Apart mark (parameterMark "strokeLineWidth"))
      (hmark' : Apart mark (parameterMark "strokeLineCap")) (paint : Paint) (rest : List Piece) :
      ¬ mark <+: widthPieces paint.strokeWidth ++ (lastPieces paint ++ rest) :=
    hmark.not_prefix_optionalCode _ _ (hlast mark hmark' paint rest)
  have hfillMark (paint : Paint) (rest : List Piece) : ¬ parameterMark "fillAlpha" <+:
      alphaPieces "strokeAlpha" paint.strokeAlpha ++
        (widthPieces paint.strokeWidth ++ (lastPieces paint ++ rest)) :=
    Apart.not_prefix_optionalCode (by decide) _ _
      (hwidths _ (by decide) (by decide) paint rest)
  obtain ⟨hfillAlpha, heq⟩ := recovers_number.optional hpaint.fillAlpha hother.fillAlpha
    (hfillMark paint r) (hfillMark other s) heq
  obtain ⟨hstrokeAlpha, heq⟩ := recovers_number.optional hpaint.strokeAlpha hother.strokeAlpha
    (hwidths _ (by decide) (by decide) paint r) (hwidths _ (by decide) (by decide) other s) heq
  obtain ⟨hwidth, heq⟩ := recovers_length.optional hpaint.width hother.width
    (hlast _ (by decide) paint r) (hlast _ (by decide) other s) heq
  simp only [lastPieces, List.append_assoc, List.cons_append] at heq
  obtain ⟨hcapName, heq⟩ := nested_inj (List.append_cancel_left heq)
  obtain ⟨hjoinName, heq⟩ := nested_inj (List.append_cancel_left heq)
  obtain ⟨hmiter, heq⟩ := recovers_number hpaint.strokeMiter hother.strokeMiter
    (List.append_cancel_left heq)
  obtain ⟨hruleName, hrest⟩ := nested_inj (List.append_cancel_left heq)
  simp only [Option.map_id, id_eq] at hfillAlpha hstrokeAlpha hwidth
  refine ⟨?_, hrest⟩
  simp only [Paint.mapColors, Paint.mk.injEq]
  exact ⟨hfill, solid_map_inj hstroke, shownAlpha_injective hfillAlpha,
    shownAlpha_injective hstrokeAlpha, hwidth, strokeCap_name_injective hcapName,
    strokeJoin_name_injective hjoinName, hmiter, fillRule_name_injective hruleName⟩

end DrawingCode
end IconForge
