import IconForge.Proofs.DrawingCode.Built
import IconForge.Proofs.DrawingCode.Calls

/-!
# Expressions tell their values

The pieces of an expression tell the value it was made from and where it ends. Colours are told in
eight digits, and those of solid paints only without a theme, which could give two colours the same
token.
-/

namespace IconForge

open Template (ofText)

/-! ### Colours -/

namespace Color

theorem utf8Size_of_isHexDigit {c : Char} (h : Text.isHexDigit c = true) : c.utf8Size = 1 := by
  have hle : c.val ≤ 127 := by
    simp only [Text.isHexDigit, Bool.or_eq_true, Bool.and_eq_true, decide_eq_true_eq] at h
    rcases h with (⟨-, h⟩ | ⟨-, h⟩) | ⟨-, h⟩
    · exact UInt32.le_trans h (by decide)
    · exact UInt32.le_trans h (by decide)
    · exact UInt32.le_trans h (by decide)
  exact Char.utf8Size_eq_one_iff.mpr hle

theorem utf8ByteSize_of_hexDigits {text : String} (h : text.toList.all Text.isHexDigit = true) :
    text.utf8ByteSize = text.length := by
  have hlength (digits : List Char) (hdigits : ∀ c ∈ digits, Text.isHexDigit c = true) :
      String.utf8Len digits = digits.length := by
    induction digits with
    | nil => rfl
    | cons c others ih =>
      obtain ⟨hc, hothers⟩ := List.forall_mem_cons.mp hdigits
      rw [String.utf8Len_cons, ih hothers, utf8Size_of_isHexDigit hc, List.length_cons]
  have hbytes : text.utf8ByteSize = String.utf8Len text.toList := by
    rw [← String.utf8ByteSize_ofList, String.ofList_toList]
  rw [hbytes, hlength text.toList (List.all_eq_true.mp h), String.length_toList]

theorem bracket_notMem_digits {color : String} (h : isHex color = true) :
    ')' ∉ (digits color).toList := by
  simp only [isHex, Bool.and_eq_true] at h
  have hdigits : ')' ∉ (normalize color).toList := by
    intro hmem
    have hbracket := List.all_eq_true.mp h.2 _ hmem
    revert hbracket
    decide
  rw [digits]
  split
  · have hleading : ')' ∉ "FF".toList := by decide
    rw [String.toList_append, List.mem_append, not_or]
    exact ⟨hleading, hdigits⟩
  · exact hdigits

end Color

namespace DrawingCode

theorem pieces_colorExpression {color : String} (h : Color.isHex color = true) :
    (colorExpression color).pieces =
      .argument (.member DrawingLibrary.color) ::
        (Piece.ofText "(0x" ++ ((Color.digits color).toList.map .char ++ [.char ')'])) := by
  simp only [Color.isHex, Bool.and_eq_true] at h
  rw [colorExpression, Color.utf8ByteSize_of_hexDigits h.2]
  simp [Color.digits, Piece.ofText]

theorem char_injective : Function.Injective Piece.char := fun _ _ h => Piece.char.inj h

theorem recovers_color :
    Recovers (Color.isHex · = true) (fun color => (colorExpression color).pieces)
      Color.digits := by
  intro color other hcolor hother r s heq
  simp only [pieces_colorExpression hcolor, pieces_colorExpression hother, List.cons_append,
    List.append_assoc, List.cons.injEq, true_and, List.append_right_inj, List.nil_append] at heq
  have hbracket {c : String} (h : Color.isHex c = true) :
      Piece.char ')' ∉ (Color.digits c).toList.map Piece.char := by
    rw [List.mem_map_of_injective char_injective]
    exact Color.bracket_notMem_digits h
  obtain ⟨hdigits, hrest⟩ := append_cons_inj (hbracket hcolor) (hbracket hother) heq
  exact ⟨String.toList_inj.mp (char_injective.list_map hdigits), hrest⟩

/-! ### Numbers -/

theorem recovers_number :
    Recovers Binary.IsFinite (fun x : Binary32 => Piece.ofText x.literal) id :=
  recovers_literal.map char_injective

theorem recovers_point :
    Recovers (fun p : Point => ∀ x ∈ p.numbers, x.IsFinite) (fun p => (pointExpression p).pieces)
      id := by
  intro p q hp hq r s heq
  simp only [Point.numbers, List.forall_mem_cons] at hp hq
  simp only [pointExpression, Template.isBuilt_member, Template.pieces_append,
    Template.pieces_member, Template.pieces_ofText, Piece.ofText_append, List.append_assoc,
    List.append_right_inj] at heq
  obtain ⟨hx, hrest⟩ := recovers_number hp.1 hq.1 heq
  obtain ⟨hy, hrest⟩ := recovers_number hp.2.1 hq.2.1 (List.append_cancel_left hrest)
  refine ⟨?_, List.append_cancel_left hrest⟩
  obtain ⟨x, y⟩ := p
  obtain ⟨x', y'⟩ := q
  obtain rfl : x = x' := hx
  obtain rfl : y = y' := hy
  rfl

/-- A length up to the point before its unit, or to the suffix of a bare number. -/
def lengthCode (length : Length) : List Char :=
  match length.unit with
  | some .densityPixels => length.value.text.toList ++ ['.']
  | none => length.value.text.toList ++ ['f']

theorem recovers_lengthCode :
    Recovers (fun length : Length => length.value.IsFinite) lengthCode id := by
  have hends (c : Char) (hc : c.isDigit = false ∧ c ≠ 'e' ∧ c ≠ 'E') (rest : List Char) :
      PathData.EndsNumeral ([c] ++ rest) := .cons rest hc
  have hpoint := hends '.' (by decide)
  have hsuffix := hends 'f' (by decide)
  intro length other hlength hother r s heq
  obtain ⟨value, unit⟩ := length
  obtain ⟨value', unit'⟩ := other
  match unit, unit' with
  | some .densityPixels, some .densityPixels =>
    simp only [lengthCode, List.append_assoc] at heq
    obtain ⟨rfl, hrest⟩ := Binary.text_append_inj hlength hother (hpoint r) (hpoint s) heq
    exact ⟨rfl, List.append_cancel_left hrest⟩
  | none, none =>
    simp only [lengthCode, List.append_assoc] at heq
    obtain ⟨rfl, hrest⟩ := Binary.text_append_inj hlength hother (hsuffix r) (hsuffix s) heq
    exact ⟨rfl, List.append_cancel_left hrest⟩
  | some .densityPixels, none =>
    simp only [lengthCode, List.append_assoc] at heq
    obtain ⟨-, hrest⟩ := Binary.text_append_inj hlength hother (hpoint r) (hsuffix s) heq
    cases hrest
  | none, some .densityPixels =>
    simp only [lengthCode, List.append_assoc] at heq
    obtain ⟨-, hrest⟩ := Binary.text_append_inj hlength hother (hsuffix r) (hpoint s) heq
    cases hrest

def unitPieces : Option LengthUnit → List Piece
  | some .densityPixels => [.argument (.member DrawingLibrary.densityPixels)]
  | none => []

theorem pieces_lengthExpression (length : Length) :
    (lengthExpression length).pieces =
      (lengthCode length).map .char ++ unitPieces length.unit := by
  obtain ⟨value, unit⟩ := length
  match unit with
  | some .densityPixels => simp [lengthExpression, lengthCode, unitPieces, Piece.ofText]
  | none => simp [lengthExpression, lengthCode, unitPieces, Piece.ofText, Binary.toList_literal]

theorem recovers_length :
    Recovers (fun length : Length => length.value.IsFinite)
      (fun length => (lengthExpression length).pieces) id := by
  intro length other hlength hother r s heq
  simp only [pieces_lengthExpression, List.append_assoc] at heq
  obtain ⟨rfl, hrest⟩ := recovers_lengthCode.map char_injective hlength hother heq
  exact ⟨rfl, List.append_cancel_left hrest⟩

/-! ### Stops of gradients -/

/-- A stop of a finite offset and a hexadecimal colour. -/
def IsProperStop (stop : ColorStop) : Prop :=
  stop.offset.IsFinite ∧ Color.isHex stop.color = true

theorem pieces_stopExpression (stop : ColorStop) :
    (stopExpression stop).pieces =
      Piece.ofText stop.offset.literal ++
        (Piece.ofText " to " ++ (colorExpression stop.color).pieces) := by
  simp [stopExpression]

theorem recovers_stop :
    Recovers IsProperStop (fun stop => (stopExpression stop).pieces)
      (ColorStop.mapColor Color.digits) := by
  intro stop other hstop hother r s heq
  simp only [pieces_stopExpression, List.append_assoc] at heq
  obtain ⟨hoffset, hrest⟩ := recovers_number hstop.1 hother.1 heq
  obtain ⟨hcolor, hrest⟩ := recovers_color hstop.2 hother.2 (List.append_cancel_left hrest)
  refine ⟨?_, hrest⟩
  rw [ColorStop.mapColor, ColorStop.mapColor, hcolor, show stop.offset = other.offset from hoffset]

theorem not_prefix_stop {c : Char} (hc : ¬ (c.isDigit = true ∨ c = '-')) (rest : List Piece)
    {stop : ColorStop} (hstop : IsProperStop stop) :
    ¬ Piece.ofText ", " ++ (stopExpression stop).pieces <+:
      Piece.ofText ", " ++ .char c :: rest := by
  obtain ⟨first, others, hliteral, hfirst⟩ := Binary.exists_literal_eq_cons hstop.1
  rw [List.prefix_append_right_inj, pieces_stopExpression, Piece.ofText, hliteral]
  rintro ⟨last, heq⟩
  obtain ⟨hchar, -⟩ := List.cons.inj heq
  cases hchar
  exact hc hfirst

/-- The stops of a gradient end where something else than a number follows. -/
theorem stops_inj {brush : Symbol} {stops others : List ColorStop} (hne : stops ≠ [])
    (hne' : others ≠ []) (hstops : ∀ stop ∈ stops, IsProperStop stop)
    (hothers : ∀ stop ∈ others, IsProperStop stop) {c : Char}
    (hc : ¬ (c.isDigit = true ∨ c = '-')) {r s : List Piece}
    (heq : (stopsExpression brush stops).pieces ++ (Piece.ofText ", " ++ .char c :: r) =
      (stopsExpression brush others).pieces ++ (Piece.ofText ", " ++ .char c :: s)) :
    stops.map (ColorStop.mapColor Color.digits) = others.map (ColorStop.mapColor Color.digits) ∧
      r = s := by
  obtain ⟨first, stops, rfl⟩ := List.exists_cons_of_ne_nil hne
  obtain ⟨first', others, rfl⟩ := List.exists_cons_of_ne_nil hne'
  obtain ⟨hfirst, hstops⟩ := List.forall_mem_cons.mp hstops
  obtain ⟨hfirst', hothers⟩ := List.forall_mem_cons.mp hothers
  have hpieces (first : ColorStop) (stops : List ColorStop) :
      (stopsExpression brush (first :: stops)).pieces =
        .argument (.member brush) :: (Piece.ofText "(" ++ ((stopExpression first).pieces ++
          stops.flatMap fun stop => Piece.ofText ", " ++ (stopExpression stop).pieces)) := by
    have hbuilt : ∀ t ∈ stopExpression first :: stops.map stopExpression, t.IsBuilt := by simp
    rw [stopsExpression, List.map_cons]
    simp only [Template.isBuilt_member, Template.isBuilt_ofText, Template.pieces_append,
      Template.append_assoc, Template.pieces_member, Template.pieces_ofText,
      Template.pieces_join_cons ", " hbuilt, List.flatMap_map]
    rfl
  have hseparated : Recovers IsProperStop
      (fun stop => Piece.ofText ", " ++ (stopExpression stop).pieces)
      (ColorStop.mapColor Color.digits) := by
    intro stop other hstop hother r s heq
    simp only [List.append_assoc] at heq
    exact recovers_stop hstop hother (List.append_cancel_left heq)
  simp only [hpieces, List.cons_append, List.append_assoc, List.cons.injEq, true_and,
    List.append_right_inj] at heq
  obtain ⟨hview, hrest⟩ := recovers_stop hfirst hfirst' heq
  obtain ⟨hviews, hrest⟩ := hseparated.flatMap hstops hothers
    (fun _ h => not_prefix_stop hc r h) (fun _ h => not_prefix_stop hc s h) hrest
  refine ⟨by rw [List.map_cons, List.map_cons, hview, hviews], ?_⟩
  exact (List.cons.inj (List.append_cancel_left hrest)).2

/-! ### Fills and strokes -/

variable {context : CodeContext}

theorem paintExpression_of_noRules (h : context.theme.rules = []) (color : String) :
    paintExpression context color =
      Template.member DrawingLibrary.solidColor ++ ofText "(" ++ colorExpression color ++
        ofText ")" := by
  have htoken : context.theme.token? color = none := by
    rw [Theme.token?, h]
    rfl
  rw [paintExpression, htoken]

/-- A fill of finite numbers and hexadecimal colours. -/
structure IsProperFill (fill : Fill) : Prop where
  finite : ∀ x ∈ fill.numbers, x.IsFinite
  hexadecimal : ∀ color ∈ fill.colors, Color.isHex color = true

theorem isProperStop_of_mem {stops : List ColorStop}
    (hoffsets : ∀ x ∈ stops.map ColorStop.offset, x.IsFinite)
    (hcolors : ∀ color ∈ stops.map ColorStop.color, Color.isHex color = true) :
    ∀ stop ∈ stops, IsProperStop stop :=
  fun stop hstop => ⟨hoffsets _ (List.mem_map.mpr ⟨stop, hstop, rfl⟩),
    hcolors _ (List.mem_map.mpr ⟨stop, hstop, rfl⟩)⟩

def fillPieces : Option Fill → List Piece
  | none => .char 'n' :: Piece.ofText "ull"
  | some (.solid color) =>
    .argument (.member DrawingLibrary.solidColor) ::
      (Piece.ofText "(" ++ ((colorExpression color).pieces ++ Piece.ofText ")"))
  | some (.linearGradient stops start stop) =>
    (stopsExpression DrawingLibrary.linearGradient stops).pieces ++
      (Piece.ofText ", " ++ .char 's' :: (Piece.ofText "tart = " ++
        ((pointExpression start).pieces ++ (Piece.ofText ", end = " ++
          ((pointExpression stop).pieces ++ Piece.ofText ")")))))
  | some (.radialGradient stops center radius) =>
    (stopsExpression DrawingLibrary.radialGradient stops).pieces ++
      (Piece.ofText ", " ++ .char 'c' :: (Piece.ofText "enter = " ++
        ((pointExpression center).pieces ++ (Piece.ofText ", radius = " ++
          (Piece.ofText radius.literal ++ Piece.ofText ")")))))

def gradientStops? : Option Fill → Option (List ColorStop)
  | none | some (.solid _) => none
  | some (.linearGradient stops ..) | some (.radialGradient stops ..) => some stops

theorem fillExpression_ok (hrules : context.theme.rules = []) {place : NodePath}
    {fill : Option Fill} {template : Template}
    (h : fillExpression context place fill = .ok template) :
    template.pieces = fillPieces fill ∧ ∀ stops ∈ gradientStops? fill, stops ≠ [] := by
  have hstart : Piece.ofText ", start = " =
      Piece.ofText ", " ++ .char 's' :: Piece.ofText "tart = " := rfl
  have hcenter : Piece.ofText ", center = " =
      Piece.ofText ", " ++ .char 'c' :: Piece.ofText "enter = " := rfl
  unfold fillExpression at h
  split at h
  · cases h
    exact ⟨by rw [Template.pieces_ofText]; rfl, nofun⟩
  · cases h
    rw [paintExpression_of_noRules hrules]
    exact ⟨by simp [fillPieces], nofun⟩
  · next stops start stop =>
    split at h
    · cases h
    · next hne =>
      cases h
      refine ⟨by simp [fillPieces, hstart], ?_⟩
      rintro _ ⟨⟩
      simpa using hne
  · next stops center radius =>
    split at h
    · cases h
    · next hne =>
      cases h
      refine ⟨by simp [fillPieces, hcenter], ?_⟩
      rintro _ ⟨⟩
      simpa using hne

def fillMark : Option Fill → Piece
  | none => .char 'n'
  | some (.solid _) => .argument (.member DrawingLibrary.solidColor)
  | some (.linearGradient ..) => .argument (.member DrawingLibrary.linearGradient)
  | some (.radialGradient ..) => .argument (.member DrawingLibrary.radialGradient)

theorem exists_fillPieces_eq_cons (fill : Option Fill) :
    ∃ rest, fillPieces fill = fillMark fill :: rest := by
  have hbrush (brush : Symbol) (stops : List ColorStop) :
      ∃ rest, (stopsExpression brush stops).pieces = .argument (.member brush) :: rest := by
    simp [stopsExpression]
  cases fill with
  | none => exact ⟨_, rfl⟩
  | some fill =>
    cases fill with
    | solid color => exact ⟨_, rfl⟩
    | linearGradient stops start stop =>
      obtain ⟨rest, hrest⟩ := hbrush DrawingLibrary.linearGradient stops
      exact ⟨_, by rw [fillPieces, hrest, List.cons_append]; rfl⟩
    | radialGradient stops center radius =>
      obtain ⟨rest, hrest⟩ := hbrush DrawingLibrary.radialGradient stops
      exact ⟨_, by rw [fillPieces, hrest, List.cons_append]; rfl⟩

theorem fillPieces_inj {fill other : Option Fill} (hfill : ∀ x ∈ fill, IsProperFill x)
    (hother : ∀ x ∈ other, IsProperFill x) (hne : ∀ stops ∈ gradientStops? fill, stops ≠ [])
    (hne' : ∀ stops ∈ gradientStops? other, stops ≠ []) {r s : List Piece}
    (heq : fillPieces fill ++ r = fillPieces other ++ s) :
    fill.map (Fill.mapColors Color.digits) = other.map (Fill.mapColors Color.digits) ∧ r = s := by
  have hmark : fillMark fill = fillMark other := by
    obtain ⟨rest, hrest⟩ := exists_fillPieces_eq_cons fill
    obtain ⟨rest', hrest'⟩ := exists_fillPieces_eq_cons other
    rw [hrest, hrest'] at heq
    exact (List.cons.inj heq).1
  match fill, other with
  | none, none => exact ⟨rfl, List.append_cancel_left heq⟩
  | some (.solid color), some (.solid color') =>
    have hcolor := (hfill _ rfl).hexadecimal color List.mem_cons_self
    have hcolor' := (hother _ rfl).hexadecimal color' List.mem_cons_self
    simp only [fillPieces, List.cons_append, List.append_assoc, List.cons.injEq, true_and,
      List.append_right_inj] at heq
    obtain ⟨hdigits, hrest⟩ := recovers_color hcolor hcolor' heq
    refine ⟨?_, List.append_cancel_left hrest⟩
    rw [Option.map_some, Option.map_some, Fill.mapColors, Fill.mapColors, hdigits]
  | some (.linearGradient stops start stop), some (.linearGradient stops' start' stop') =>
    obtain ⟨hfinite, hcolors⟩ := hfill _ rfl
    obtain ⟨hfinite', hcolors'⟩ := hother _ rfl
    simp only [Fill.numbers, List.forall_mem_append] at hfinite hfinite'
    simp only [fillPieces, List.cons_append, List.append_assoc] at heq
    obtain ⟨hstops, hrest⟩ := stops_inj (hne _ rfl) (hne' _ rfl)
      (isProperStop_of_mem hfinite.1.1 hcolors) (isProperStop_of_mem hfinite'.1.1 hcolors')
      (by decide) heq
    obtain ⟨hstart, hrest⟩ := recovers_point hfinite.1.2 hfinite'.1.2
      (List.append_cancel_left hrest)
    obtain ⟨hstop, hrest⟩ := recovers_point hfinite.2 hfinite'.2 (List.append_cancel_left hrest)
    refine ⟨?_, List.append_cancel_left hrest⟩
    rw [Option.map_some, Option.map_some, Fill.mapColors, Fill.mapColors, hstops,
      show start = start' from hstart, show stop = stop' from hstop]
  | some (.radialGradient stops center radius), some (.radialGradient stops' center' radius') =>
    obtain ⟨hfinite, hcolors⟩ := hfill _ rfl
    obtain ⟨hfinite', hcolors'⟩ := hother _ rfl
    simp only [Fill.numbers, List.forall_mem_append, List.forall_mem_singleton]
      at hfinite hfinite'
    simp only [fillPieces, List.cons_append, List.append_assoc] at heq
    obtain ⟨hstops, hrest⟩ := stops_inj (hne _ rfl) (hne' _ rfl)
      (isProperStop_of_mem hfinite.1.1 hcolors) (isProperStop_of_mem hfinite'.1.1 hcolors')
      (by decide) heq
    obtain ⟨hcenter, hrest⟩ := recovers_point hfinite.1.2 hfinite'.1.2
      (List.append_cancel_left hrest)
    obtain ⟨hradius, hrest⟩ := recovers_number hfinite.2 hfinite'.2
      (List.append_cancel_left hrest)
    refine ⟨?_, List.append_cancel_left hrest⟩
    rw [Option.map_some, Option.map_some, Fill.mapColors, Fill.mapColors, hstops,
      show center = center' from hcenter, show radius = radius' from hradius]
  | none, some (.solid _) | none, some (.linearGradient ..) | none, some (.radialGradient ..)
  | some (.solid _), none | some (.linearGradient ..), none | some (.radialGradient ..), none =>
    cases hmark
  | some (.solid _), some (.linearGradient ..) | some (.solid _), some (.radialGradient ..)
  | some (.linearGradient ..), some (.solid _) | some (.radialGradient ..), some (.solid _)
  | some (.linearGradient ..), some (.radialGradient ..)
  | some (.radialGradient ..), some (.linearGradient ..) =>
    simp only [fillMark] at hmark
    exact absurd hmark (by decide)

end DrawingCode
end IconForge
