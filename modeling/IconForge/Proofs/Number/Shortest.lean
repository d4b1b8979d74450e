import IconForge.Number.Shortest
import IconForge.Proofs.Number.Rounding

/-!
# Reading the shortest decimal

Every grid point that the search answers lies between the midpoints around the value, and the finest
grid has one. Hence the shortest decimal, and every decimal of the same sign and value, is read back
as the value that it was made from (`Binary.ofDecimal_of_absValue_eq`).
-/

namespace IconForge
namespace BinaryFormat

variable {f : BinaryFormat}

theorem ReadRange.Holds.bounds {range : ReadRange} {point : Nat} (h : range.Holds point) :
    range.low ≤ point ∧ point ≤ range.high := by
  rw [Holds] at h
  split at h
  · exact h
  · exact ⟨h.1.le, h.2.le⟩

theorem ReadRange.holds_of_lt {range : ReadRange} {point : Nat} (hlow : range.low < point)
    (hhigh : point < range.high) : range.Holds point := by
  rw [Holds]
  split
  · exact ⟨hlow.le, hhigh.le⟩
  · exact ⟨hlow, hhigh⟩

/-- The multiples of a step next to a value, and which of them is chosen. -/
theorem ReadRange.gridPoint?_cases (range : ReadRange) (step : Nat) :
    let below := range.value / step
    range.gridPoint? step = none ∧ ¬ range.Holds (below * step) ∧
        ¬ range.Holds ((below + 1) * step) ∨
      range.gridPoint? step = some below ∧ range.Holds (below * step) ∧
        (range.Holds ((below + 1) * step) → 2 * (range.value - below * step) < step) ∨
      range.gridPoint? step = some (below + 1) ∧ range.Holds ((below + 1) * step) ∧
        (range.Holds (below * step) → step ≤ 2 * (range.value - below * step)) := by
  dsimp only [gridPoint?]
  by_cases hbelow : range.Holds (range.value / step * step)
  · by_cases habove : range.Holds ((range.value / step + 1) * step)
    · by_cases hnear : 2 * (range.value - range.value / step * step) < step
      · simp [hbelow, habove, hnear]
      · simp [hbelow, habove, hnear, not_lt.mp hnear]
    · simp [hbelow, habove]
  · by_cases habove : range.Holds ((range.value / step + 1) * step)
    · simp [hbelow, habove]
    · simp [hbelow, habove]

theorem ReadRange.holds_of_gridPoint? {range : ReadRange} {step point : Nat}
    (h : range.gridPoint? step = some point) : range.Holds (point * step) := by
  rcases range.gridPoint?_cases step with ⟨heq, -⟩ | ⟨heq, hholds, -⟩ | ⟨heq, hholds, -⟩
  · rw [heq] at h
    cases h
  · rw [heq] at h
    cases h
    exact hholds
  · rw [heq] at h
    cases h
    exact hholds

theorem gridStep_zero_le : f.gridStep 0 ≤ 10 ^ f.finestPlaces := by
  have height : 2 ^ (f.scale + 1) ≤ 8 ^ f.finestPlaces := by
    rw [show 8 = 2 ^ 3 from rfl, ← Nat.pow_mul]
    refine Nat.pow_le_pow_right Nat.zero_lt_two ?_
    rw [finestPlaces]
    omega
  calc
    f.gridStep 0 = 2 ^ (f.scale + 1) := Nat.mul_one _
    _ ≤ 8 ^ f.finestPlaces := height
    _ ≤ 10 ^ f.finestPlaces := Nat.pow_le_pow_left (by norm_num) _

/-- The midpoints around a value are further from it than the finest step. -/
theorem readRange_bounds {magnitude : Nat} (hne : magnitude ≠ 0) :
    (f.readRange magnitude).low + 10 ^ f.finestPlaces ≤ (f.readRange magnitude).value ∧
      (f.readRange magnitude).value < (f.readRange magnitude).high := by
  have hbefore := f.units_strictMono (show magnitude - 1 < magnitude by omega)
  have hafter := f.units_strictMono (Nat.lt_add_one magnitude)
  constructor
  · simp only [readRange, refine]
    rw [← Nat.succ_mul]
    exact Nat.mul_le_mul_right _ (by omega)
  · simp only [readRange, refine]
    exact Nat.mul_lt_mul_of_pos_right (by omega) (Nat.pow_pos (by norm_num))

/-- The multiple of the finest step below a value is closer to it than the midpoint. -/
theorem gridPoint?_finest {magnitude : Nat} (hne : magnitude ≠ 0) :
    ∃ point, (f.readRange magnitude).gridPoint? (f.gridStep 0) = some point := by
  have hpos : 0 < f.gridStep 0 := Nat.mul_pos (Nat.two_pow_pos _) Nat.one_pos
  have hbelow := Nat.div_mul_le_self (f.readRange magnitude).value (f.gridStep 0)
  have habove := Nat.lt_div_mul_add hpos (a := (f.readRange magnitude).value)
  have hstep := f.gridStep_zero_le
  obtain ⟨hlow, hhigh⟩ := f.readRange_bounds hne
  have hholds : (f.readRange magnitude).Holds
      ((f.readRange magnitude).value / f.gridStep 0 * f.gridStep 0) := by
    apply ReadRange.holds_of_lt
    · omega
    · omega
  rcases (f.readRange magnitude).gridPoint?_cases (f.gridStep 0) with
    ⟨-, hnot, -⟩ | ⟨heq, -⟩ | ⟨heq, -⟩
  · exact absurd hholds hnot
  · exact ⟨_, heq⟩
  · exact ⟨_, heq⟩

theorem gridPoint?_shortestFrom {range : ReadRange} {finest : Nat}
    (hfinest : range.gridPoint? (f.gridStep 0) = some finest) (level : Nat) :
    range.gridPoint? (f.gridStep (f.shortestFrom range level).2) =
      some (f.shortestFrom range level).1 := by
  induction level with
  | zero =>
    rw [shortestFrom, hfinest]
    rfl
  | succ level ih =>
    rw [shortestFrom]
    split
    · next point hpoint => exact hpoint
    · exact ih

def gridDecimal (f : BinaryFormat) (negative : Bool) (point level : Nat) : Decimal :=
  ⟨negative, point, (level : Int) - f.finestPlaces⟩

theorem absValue_gridDecimal (negative : Bool) (point level : Nat) :
    (f.gridDecimal negative point level).absValue =
      ((point * 10 ^ level : Nat) : ℚ) / ((10 ^ f.finestPlaces : Nat) : ℚ) := by
  rw [Decimal.absValue, gridDecimal, zpow_sub₀ (by norm_num), zpow_natCast, zpow_natCast]
  push_cast
  ring

/-- The grid points of the range of a magnitude are the decimals that are read as it. -/
theorem holds_iff_readsAs {magnitude point level : Nat} (negative : Bool) :
    (f.readRange magnitude).Holds (point * f.gridStep level) ↔
      f.ReadsAs magnitude (f.gridDecimal negative point level).absValue := by
  have hplace : point * f.gridStep level = 2 * (point * 10 ^ level * 2 ^ f.scale) := by
    rw [gridStep, Nat.pow_succ]
    ring
  rw [absValue_gridDecimal, hplace]
  refine Iff.trans ?_ (readsAs_iff (Nat.pow_pos (by norm_num))).symm
  simp only [ReadRange.Holds, readRange, refine, decide_eq_true_eq]
  split
  · next heven => exact ⟨fun h => ⟨h.1, h.2, by omega⟩, fun h => ⟨h.1, h.2.1⟩⟩
  · next hodd =>
    constructor
    · rintro ⟨hlow, hhigh⟩
      exact ⟨hlow.le, hhigh.le, fun _ => ⟨hlow.ne, hhigh.ne⟩⟩
    · rintro ⟨hlow, hhigh, hne⟩
      obtain ⟨hlowNe, hhighNe⟩ := hne (by omega)
      exact ⟨lt_of_le_of_ne hlow hlowNe, lt_of_le_of_ne hhigh hhighNe⟩

end BinaryFormat

namespace Binary

variable {f : BinaryFormat} {x : Binary f} {d : Decimal}

theorem shortest_negative (x : Binary f) : x.shortest.negative = x.negative := by
  rw [shortest]
  split
  · rfl
  · rfl

/-- The shortest decimal of a value other than zero is the grid point that the search answers. -/
theorem exists_shortest_eq (h : x.magnitude ≠ 0) :
    ∃ point level, x.shortest = f.gridDecimal x.negative point level ∧
      (f.readRange x.magnitude).gridPoint? (f.gridStep level) = some point ∧
        f.shortestFrom (f.readRange x.magnitude) (f.firstLevel (f.readRange x.magnitude)) =
          (point, level) := by
  obtain ⟨finest, hfinest⟩ := BinaryFormat.gridPoint?_finest (f := f) h
  have hpoint := BinaryFormat.gridPoint?_shortestFrom hfinest
    (f.firstLevel (f.readRange x.magnitude))
  refine ⟨_, _, ?_, hpoint, rfl⟩
  rw [shortest, if_neg h]
  rfl

theorem shortest_of_zero (h : x.magnitude = 0) : x.shortest = ⟨x.negative, 0, 0⟩ := if_pos h

theorem readsAs_shortest (x : Binary f) : f.ReadsAs x.magnitude x.shortest.absValue := by
  by_cases hzero : x.magnitude = 0
  · rw [hzero, shortest_of_zero hzero, absValue_of_coefficient_eq_zero rfl]
    exact readsAs_zero le_rfl (by norm_num)
  · obtain ⟨point, level, heq, hpoint, -⟩ := exists_shortest_eq hzero
    rw [heq]
    exact (BinaryFormat.holds_iff_readsAs _).mp (BinaryFormat.ReadRange.holds_of_gridPoint? hpoint)

/-- A decimal with the sign and the value of the shortest one is read back. -/
theorem ofDecimal_of_absValue_eq (hfinite : x.IsFinite) (hsign : d.negative = x.negative)
    (hvalue : d.absValue = x.shortest.absValue) : ofDecimal d = x :=
  (ofDecimal_eq_iff hfinite).mpr ⟨hsign, hvalue ▸ x.readsAs_shortest⟩

end Binary
end IconForge
