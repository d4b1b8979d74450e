import IconForge.Proofs.Number.Shortest

/-!
# Fewest digits

The search for the shortest decimal starts at a grid too coarse for the range of the value, and goes
on to finer ones until one meets the range. So no coarser grid does, and a decimal with fewer digits
would lead to a coarser one. `isShortest_shortest` says that the decimal that is found is read back,
that no decimal with fewer digits is, and that none with its exponent is nearer to the value.
-/

namespace IconForge
namespace BinaryFormat

variable {f : BinaryFormat} {range : ReadRange} {magnitude step point level : Nat}

/-! ### Ranges -/

theorem ReadRange.Holds.between {first second : Nat} (hfirst : range.Holds first)
    (hsecond : range.Holds second) (hle : first ≤ point) (hge : point ≤ second) :
    range.Holds point := by
  unfold Holds at *
  split at hfirst
  · next hclosed =>
    rw [if_pos hclosed] at hsecond ⊢
    omega
  · next hclosed =>
    rw [if_neg hclosed] at hsecond ⊢
    omega

theorem ReadsAs.between {first second value : ℚ} (hfirst : f.ReadsAs magnitude first)
    (hsecond : f.ReadsAs magnitude second) (hle : first ≤ value) (hge : value ≤ second) :
    f.ReadsAs magnitude value := by
  have hscale : (0 : ℚ) < 2 ^ f.scale := by positivity
  have hlow : 2 * first * 2 ^ f.scale ≤ 2 * value * 2 ^ f.scale := by gcongr
  have hhigh : 2 * value * 2 ^ f.scale ≤ 2 * second * 2 ^ f.scale := by gcongr
  constructor
  case low => exact hfirst.low.trans hlow
  case high => exact hhigh.trans hsecond.high
  case low_ne =>
    intro hodd
    exact ((lt_of_le_of_ne hfirst.low (hfirst.low_ne hodd)).trans_le hlow).ne
  case high_ne =>
    intro hodd
    exact (hhigh.trans_lt (lt_of_le_of_ne hsecond.high (hsecond.high_ne hodd))).ne

theorem not_holds_zero (hne : magnitude ≠ 0) : ¬ (f.readRange magnitude).Holds 0 := by
  have hlow : 0 < (f.readRange magnitude).low :=
    Nat.mul_pos (Nat.add_pos_right _ (f.units_pos hne)) (Nat.pow_pos (by norm_num))
  intro hholds
  exact absurd hholds.bounds.1 (not_le.mpr hlow)

theorem holds_value (hne : magnitude ≠ 0) :
    (f.readRange magnitude).Holds (f.readRange magnitude).value := by
  have hpow : 0 < 10 ^ f.finestPlaces := Nat.pow_pos (by norm_num)
  obtain ⟨hlow, hhigh⟩ := f.readRange_bounds hne
  apply ReadRange.holds_of_lt
  · omega
  · exact hhigh

/-! ### One grid -/

/-- If a grid meets the range of a value, then a neighbour of the value on it does that is no
further from the value on the same side. -/
theorem ReadRange.holds_neighbour (hvalue : range.Holds range.value) (hstep : 0 < step)
    (h : range.Holds (point * step)) :
    point * step ≤ range.value / step * step ∧ range.Holds (range.value / step * step) ∨
      (range.value / step + 1) * step ≤ point * step ∧
        range.Holds ((range.value / step + 1) * step) := by
  have hbelow : range.value / step * step ≤ range.value := Nat.div_mul_le_self _ _
  have habove : range.value < (range.value / step + 1) * step := by
    rw [Nat.add_one_mul]
    exact Nat.lt_div_mul_add hstep
  rcases le_or_gt point (range.value / step) with hle | hlt
  · have hpoint := Nat.mul_le_mul_right step hle
    exact .inl ⟨hpoint, h.between hvalue hpoint hbelow⟩
  · have hpoint := Nat.mul_le_mul_right step (Nat.succ_le_of_lt hlt)
    exact .inr ⟨hpoint, hvalue.between h habove.le hpoint⟩

theorem ReadRange.not_holds_of_gridPoint? (hvalue : range.Holds range.value) (hstep : 0 < step)
    (h : range.gridPoint? step = none) : ¬ range.Holds (point * step) := by
  intro hpoint
  rcases range.gridPoint?_cases step with ⟨-, hbelow, habove⟩ | ⟨heq, -⟩ | ⟨heq, -⟩
  · rcases holds_neighbour hvalue hstep hpoint with ⟨-, hholds⟩ | ⟨-, hholds⟩
    · exact hbelow hholds
    · exact habove hholds
  · rw [heq] at h
    cases h
  · rw [heq] at h
    cases h

/-- The chosen point of a grid is as near to the value as any that is read back. -/
theorem ReadRange.gridPoint?_nearest (hvalue : range.Holds range.value) (hstep : 0 < step)
    (h : range.gridPoint? step = some point) {other : Nat} (hother : range.Holds (other * step)) :
    (((point * step : Nat) : ℤ) - range.value).natAbs ≤
      (((other * step : Nat) : ℤ) - range.value).natAbs := by
  have hbelow : range.value / step * step ≤ range.value := Nat.div_mul_le_self _ _
  have habove : range.value < range.value / step * step + step := Nat.lt_div_mul_add hstep
  have hsucc := Nat.add_one_mul (range.value / step) step
  rcases range.gridPoint?_cases step with ⟨heq, -⟩ | ⟨heq, -, hnear⟩ | ⟨heq, -, hnear⟩
  · rw [heq] at h
    cases h
  · rw [heq] at h
    cases h
    rcases holds_neighbour hvalue hstep hother with ⟨hle, -⟩ | ⟨hge, hholds⟩
    · omega
    · have := hnear hholds
      omega
  · rw [heq] at h
    cases h
    rcases holds_neighbour hvalue hstep hother with ⟨hle, hholds⟩ | ⟨hge, -⟩
    · have := hnear hholds
      omega
    · omega

/-! ### All grids -/

theorem gridStep_pos (level : Nat) : 0 < f.gridStep level :=
  Nat.mul_pos (Nat.two_pow_pos _) (Nat.pow_pos (by norm_num))

theorem gridPoint?_eq_none_of_shortestFrom {first : Nat}
    (h : (f.shortestFrom range first).2 < level) (hle : level ≤ first) :
    range.gridPoint? (f.gridStep level) = none := by
  induction first with
  | zero => omega
  | succ first ih =>
    rw [shortestFrom] at h
    split at h
    · simp only at h
      omega
    · next hnone =>
      rcases Nat.eq_or_lt_of_le hle with rfl | hlt
      · exact hnone
      · exact ih h (Nat.le_of_lt_succ hlt)

/-- A number of binary digits is written with at most 302 decimal ones for a thousand. -/
theorem two_pow_le_ten_pow (bits : Nat) : 2 ^ bits ≤ 10 ^ (bits * 302 / 1000 + 1) := by
  have hthousand : 2 ^ 1000 ≤ 10 ^ 302 := by decide +kernel
  have hplaces : bits * 302 ≤ (bits * 302 / 1000 + 1) * 1000 := by omega
  apply le_of_pow_le_pow_left₀ (n := 1000) (by norm_num) (Nat.zero_le _)
  calc
    (2 ^ bits) ^ 1000 = (2 ^ 1000) ^ bits := by rw [← pow_mul, ← pow_mul, mul_comm]
    _ ≤ (10 ^ 302) ^ bits := Nat.pow_le_pow_left hthousand bits
    _ = 10 ^ (bits * 302) := by rw [← pow_mul, mul_comm]
    _ ≤ 10 ^ ((bits * 302 / 1000 + 1) * 1000) := Nat.pow_le_pow_right (by norm_num) hplaces
    _ = (10 ^ (bits * 302 / 1000 + 1)) ^ 1000 := pow_mul _ _ _

/-- The first level is too coarse for every number of the range but zero. -/
theorem high_lt_gridStep (h : f.firstLevel range ≤ level) : range.high < f.gridStep level := by
  have hpos := gridStep_pos (f := f) 0
  calc
    range.high < (range.high / f.gridStep 0 + 1) * f.gridStep 0 := by
      rw [Nat.add_one_mul]
      exact Nat.lt_div_mul_add hpos
    _ ≤ 2 ^ ((range.high / f.gridStep 0).log2 + 1) * f.gridStep 0 :=
      Nat.mul_le_mul_right _ Nat.lt_log2_self
    _ ≤ 10 ^ f.firstLevel range * f.gridStep 0 := Nat.mul_le_mul_right _ (two_pow_le_ten_pow _)
    _ ≤ 10 ^ level * f.gridStep 0 := Nat.mul_le_mul_right _ (Nat.pow_le_pow_right (by norm_num) h)
    _ = f.gridStep level := by
      rw [gridStep, gridStep, pow_zero, mul_one, mul_comm]

/-- No grid coarser than the one that the search stops at has a point in the range. -/
theorem not_holds_of_coarser (hne : magnitude ≠ 0)
    (h : (f.shortestFrom (f.readRange magnitude) (f.firstLevel (f.readRange magnitude))).2 <
      level) : ¬ (f.readRange magnitude).Holds (point * f.gridStep level) := by
  by_cases hle : level ≤ f.firstLevel (f.readRange magnitude)
  · exact ReadRange.not_holds_of_gridPoint? (holds_value hne) (gridStep_pos level)
      (gridPoint?_eq_none_of_shortestFrom h hle)
  · intro hholds
    have hhigh := high_lt_gridStep (Nat.le_of_lt (not_le.mp hle))
    have hpoint : point = 0 := by
      by_contra hpos
      have hstep := Nat.le_mul_of_pos_left (f.gridStep level) (Nat.pos_of_ne_zero hpos)
      have hpoint := hholds.bounds.2
      omega
    rw [hpoint, Nat.zero_mul] at hholds
    exact not_holds_zero hne hholds

end BinaryFormat

/-! ### Digits -/

def Decimal.digitCount (d : Decimal) : Nat := (digitsOf d.coefficient).length

theorem Decimal.digitCount_pos (d : Decimal) : 0 < d.digitCount := Nat.length_toDigits_pos

theorem Decimal.digitCount_le_iff {d : Decimal} {count : Nat} (h : 0 < count) :
    d.digitCount ≤ count ↔ d.coefficient < 10 ^ count :=
  Nat.length_toDigits_le_iff (by norm_num) h

theorem Decimal.absValue_le_power {d : Decimal} {count : Nat} {exponent : Int}
    (h : d.coefficient < 10 ^ count) (hexponent : d.exponent ≤ exponent) :
    d.absValue ≤ 10 ^ count * 10 ^ exponent := by
  have hcoefficient : (d.coefficient : ℚ) ≤ 10 ^ count := by exact_mod_cast h.le
  have hten : (10 : ℚ) ^ d.exponent ≤ 10 ^ exponent :=
    zpow_le_zpow_right₀ (by norm_num) hexponent
  rw [absValue]
  gcongr

theorem Decimal.power_le_absValue {d : Decimal} {count : Nat} (h : 10 ^ count ≤ d.coefficient) :
    10 ^ count * 10 ^ d.exponent ≤ d.absValue := by
  have hcoefficient : (10 : ℚ) ^ count ≤ d.coefficient := by exact_mod_cast h
  rw [absValue]
  gcongr

theorem BinaryFormat.absValue_gridDecimal_power (f : BinaryFormat) (negative : Bool)
    (level count : Nat) :
    (f.gridDecimal negative 1 (level + count)).absValue =
      10 ^ count * (10 : ℚ) ^ ((level : ℤ) - f.finestPlaces) := by
  rw [Decimal.absValue, gridDecimal, Nat.cast_one, one_mul, ← zpow_natCast,
    ← zpow_add₀ (by norm_num)]
  congr 1
  push_cast
  ring

namespace Binary

open BinaryFormat

variable {f : BinaryFormat} {x : Binary f} {d : Decimal}

def absValue (x : Binary f) : ℚ := f.units x.magnitude / 2 ^ f.scale

/-- A decimal is a shortest one for a value if it is read as the value, no decimal with fewer digits
is, and none with the same exponent is nearer to the value. -/
structure IsShortest (x : Binary f) (d : Decimal) : Prop where
  reads : ofDecimal d = x
  fewest : ∀ other, ofDecimal other = x → d.digitCount ≤ other.digitCount
  nearest : ∀ other, ofDecimal other = x → other.exponent = d.exponent →
    |d.absValue - x.absValue| ≤ |other.absValue - x.absValue|

/-- A decimal that is read as a value has no greater exponent than the shortest one. -/
theorem exponent_le_shortest (hfinite : x.IsFinite) (hne : x.magnitude ≠ 0)
    (h : ofDecimal d = x) : d.exponent ≤ x.shortest.exponent := by
  obtain ⟨point, level, heq, -, hsearch⟩ := exists_shortest_eq hne
  obtain ⟨hsign, hreads⟩ := (ofDecimal_eq_iff hfinite).mp h
  rw [heq]
  by_contra hlarge
  simp only [gridDecimal, not_le] at hlarge
  obtain ⟨coarser, hcoarser⟩ :=
    Int.eq_ofNat_of_zero_le (show 0 ≤ d.exponent + f.finestPlaces by omega)
  have hd : d = f.gridDecimal d.negative d.coefficient coarser := by
    rw [gridDecimal, ← hcoarser, add_sub_cancel_right]
  rw [hd] at hreads
  refine not_holds_of_coarser hne ?_ ((holds_iff_readsAs _).mpr hreads)
  rw [hsearch]
  omega

/-- No decimal that is read as a value has fewer digits than the shortest one. -/
theorem digitCount_shortest_le (hfinite : x.IsFinite) (h : ofDecimal d = x) :
    x.shortest.digitCount ≤ d.digitCount := by
  by_cases hne : x.magnitude = 0
  · rw [shortest_of_zero hne, Decimal.digitCount_le_iff d.digitCount_pos]
    exact Nat.pow_pos (by norm_num)
  obtain ⟨point, level, heq, hpoint, hsearch⟩ := exists_shortest_eq hne
  obtain ⟨hsign, hreads⟩ := (ofDecimal_eq_iff hfinite).mp h
  have hexponent := exponent_le_shortest hfinite hne h
  have hshortest := x.readsAs_shortest
  rw [heq] at hexponent hshortest ⊢
  by_contra hfewer
  obtain ⟨count, hcount⟩ : ∃ count, (f.gridDecimal x.negative point level).digitCount = count + 1 :=
    Nat.exists_eq_add_of_le' (Decimal.digitCount_pos _)
  have hpos : 0 < count := by
    have := d.digitCount_pos
    omega
  have hsmall : d.coefficient < 10 ^ count := (Decimal.digitCount_le_iff hpos).mp (by omega)
  have hlarge : 10 ^ count ≤ point := by
    by_contra hlt
    have := (Decimal.digitCount_le_iff (d := f.gridDecimal x.negative point level) hpos).mpr
      (not_le.mp hlt)
    omega
  have hbelow : d.absValue ≤ (f.gridDecimal x.negative 1 (level + count)).absValue := by
    rw [absValue_gridDecimal_power]
    exact Decimal.absValue_le_power hsmall hexponent
  have habove : (f.gridDecimal x.negative 1 (level + count)).absValue ≤
      (f.gridDecimal x.negative point level).absValue := by
    rw [absValue_gridDecimal_power]
    exact Decimal.power_le_absValue hlarge
  refine not_holds_of_coarser hne ?_
    ((holds_iff_readsAs _).mpr (hreads.between hshortest hbelow habove))
  rw [hsearch]
  omega

/-- The distance of a grid point from the value, in the units of the grids. -/
theorem natAbs_sub_value (negative : Bool) (point level : Nat) :
    (((((point * f.gridStep level : Nat) : ℤ) - (f.readRange x.magnitude).value).natAbs : Nat) :
        ℚ) =
      2 ^ (f.scale + 1) * 10 ^ f.finestPlaces *
        |(f.gridDecimal negative point level).absValue - x.absValue| := by
  have hunits : (0 : ℚ) < 2 ^ (f.scale + 1) * 10 ^ f.finestPlaces := by positivity
  have hvalue : (f.readRange x.magnitude).value =
      2 * f.units x.magnitude * 10 ^ f.finestPlaces := rfl
  rw [Nat.cast_natAbs, Int.cast_abs, ← abs_of_pos hunits, ← abs_mul, hvalue,
    absValue_gridDecimal, absValue, gridStep]
  congr 1
  push_cast
  field_simp
  ring

/-- The decimal that the search finds is a shortest one. -/
theorem isShortest_shortest (hfinite : x.IsFinite) : x.IsShortest x.shortest := by
  constructor
  case reads => exact (ofDecimal_eq_iff hfinite).mpr ⟨x.shortest_negative, x.readsAs_shortest⟩
  case fewest => exact fun other hother => digitCount_shortest_le hfinite hother
  case nearest =>
    intro other hother hexponent
    by_cases hne : x.magnitude = 0
    · rw [shortest_of_zero hne, absValue_of_coefficient_eq_zero rfl, absValue, hne, f.units_zero,
        Nat.cast_zero, zero_div, sub_zero, abs_zero]
      exact abs_nonneg _
    · obtain ⟨point, level, heq, hpoint, -⟩ := exists_shortest_eq hne
      obtain ⟨hsign, hreads⟩ := (ofDecimal_eq_iff hfinite).mp hother
      rw [heq] at hexponent ⊢
      have hgrid : other = f.gridDecimal other.negative other.coefficient level := by
        rw [gridDecimal, ← show other.exponent = (level : ℤ) - f.finestPlaces from hexponent]
      rw [hgrid] at hreads ⊢
      have hnear := ReadRange.gridPoint?_nearest (holds_value hne) (gridStep_pos level) hpoint
        ((holds_iff_readsAs _).mpr hreads)
      have hscale : (0 : ℚ) < 2 ^ (f.scale + 1) * 10 ^ f.finestPlaces := by positivity
      rw [← Nat.cast_le (α := ℚ), natAbs_sub_value x.negative, natAbs_sub_value other.negative]
        at hnear
      exact le_of_mul_le_mul_left hnear hscale

end Binary
end IconForge
