import IconForge.Number.Decimal
import Mathlib

/-!
# Rounding to a binary format

The values of the magnitudes of a format grow strictly, and `floorMagnitude` finds the greatest one
below an amount. Hence a fraction is rounded to a magnitude exactly if it lies between the midpoints
around it (`nearest_eq_iff`), and a decimal is read as a finite value exactly if the midpoints of
the value enclose it (`Binary.ofDecimal_eq_iff`), however its coefficient and exponent are chosen.
-/

namespace IconForge
namespace BinaryFormat

variable (f : BinaryFormat)

/-! ### The values of magnitudes -/

theorem units_succ (magnitude : Nat) :
    f.units (magnitude + 1) =
      f.units magnitude + 2 ^ (magnitude / 2 ^ f.fractionBits - 1) := by
  have hpos : 0 < 2 ^ f.fractionBits := Nat.two_pow_pos _
  simp only [units]
  generalize 2 ^ f.fractionBits = size at hpos ⊢
  by_cases hsmall : magnitude + 1 < size
  · have hdiv : magnitude / size = 0 := Nat.div_eq_of_lt (by omega)
    rw [if_pos hsmall, if_pos (by omega), hdiv]
    rfl
  · by_cases hlast : magnitude + 1 = size
    · have hdiv : magnitude / size = 0 := Nat.div_eq_of_lt (by omega)
      rw [if_neg hsmall, if_pos (by omega), hdiv, hlast, Nat.mod_self, Nat.div_self hpos]
      simp only [Nat.add_zero, Nat.sub_self, Nat.pow_zero, Nat.mul_one, Nat.zero_sub]
      omega
    · rw [if_neg hsmall, if_neg (by omega)]
      have hsplit := Nat.div_add_mod magnitude size
      have hmod := Nat.mod_lt magnitude hpos
      obtain ⟨exponent, hexponent⟩ : ∃ exponent, magnitude / size = exponent + 1 :=
        Nat.exists_eq_add_of_le' (Nat.div_pos (by omega) hpos)
      generalize magnitude % size = rest at hsplit hmod ⊢
      rw [hexponent] at hsplit ⊢
      have hnext : magnitude + 1 = size * (exponent + 1) + (rest + 1) := by omega
      rw [hnext]
      by_cases hcarry : rest + 1 = size
      · rw [hcarry, ← Nat.mul_succ, Nat.mul_mod_right, Nat.mul_div_cancel_left _ hpos]
        simp only [Nat.succ_eq_add_one, Nat.add_sub_cancel, Nat.add_zero]
        rw [Nat.pow_succ, ← Nat.succ_mul, Nat.succ_eq_add_one, Nat.add_assoc, hcarry]
        ring
      · have hrest : rest + 1 < size := by omega
        rw [Nat.mul_add_mod, Nat.mod_eq_of_lt hrest, Nat.mul_add_div hpos,
          Nat.div_eq_of_lt hrest]
        simp only [Nat.add_zero, Nat.add_sub_cancel]
        ring

theorem units_strictMono : StrictMono f.units := by
  apply strictMono_nat_of_lt_succ
  intro magnitude
  rw [units_succ]
  have hstep : 0 < 2 ^ (magnitude / 2 ^ f.fractionBits - 1) := Nat.two_pow_pos _
  omega

theorem units_zero : f.units 0 = 0 := by
  simp [units]

theorem units_pos {magnitude : Nat} (h : magnitude ≠ 0) : 0 < f.units magnitude := by
  rw [← f.units_zero]
  exact f.units_strictMono (Nat.pos_of_ne_zero h)

/-- The greatest finite value and the midpoint after it are below this bound. -/
theorem units_infinity_le : f.units f.infinity ≤ 2 ^ (2 ^ f.exponentBits + f.fractionBits) := by
  have hpos : 0 < 2 ^ f.fractionBits := Nat.two_pow_pos _
  rw [units, infinity, Nat.mul_mod_left, Nat.mul_div_cancel _ hpos]
  split
  · next hzero =>
    calc
      (2 ^ f.exponentBits - 1) * 2 ^ f.fractionBits ≤ 2 ^ f.fractionBits := hzero.le
      _ ≤ 2 ^ (2 ^ f.exponentBits + f.fractionBits) :=
        Nat.pow_le_pow_right Nat.zero_lt_two (Nat.le_add_left _ _)
  · rw [Nat.add_zero, ← Nat.pow_add, Nat.add_comm]
    exact Nat.pow_le_pow_right Nat.zero_lt_two
      (Nat.add_le_add_right ((Nat.sub_le _ 1).trans (Nat.sub_le _ 1)) _)

theorem units_of_lt {magnitude : Nat} (h : magnitude < 2 ^ (f.fractionBits + 1)) :
    f.units magnitude = magnitude := by
  rw [units]
  split
  · rfl
  · next hlarge =>
    rw [Nat.pow_succ] at h
    have hdiv : magnitude / 2 ^ f.fractionBits = 1 := Nat.div_eq_of_lt_le (by omega) (by omega)
    rw [hdiv, Nat.mod_eq_sub_mod (by omega), Nat.mod_eq_of_lt (by omega)]
    omega

theorem units_leading (shift : Nat) {fraction : Nat} (h : fraction < 2 ^ f.fractionBits) :
    let magnitude := (shift + 1) * 2 ^ f.fractionBits + (2 ^ f.fractionBits + fraction)
    f.units magnitude = (2 ^ f.fractionBits + fraction) * 2 ^ (shift + 1) ∧
      magnitude / 2 ^ f.fractionBits = shift + 2 := by
  have hpos : 0 < 2 ^ f.fractionBits := Nat.two_pow_pos _
  have hmagnitude : (shift + 1) * 2 ^ f.fractionBits + (2 ^ f.fractionBits + fraction) =
      2 ^ f.fractionBits * (shift + 2) + fraction := by ring
  have hlarge : ¬ 2 ^ f.fractionBits * (shift + 2) + fraction < 2 ^ f.fractionBits := by
    have := Nat.le_mul_of_pos_right (2 ^ f.fractionBits) (Nat.succ_pos (shift + 1))
    omega
  have hexponent : (2 ^ f.fractionBits * (shift + 2) + fraction) / 2 ^ f.fractionBits =
      shift + 2 := by
    rw [Nat.mul_add_div hpos, Nat.div_eq_of_lt h, Nat.add_zero]
  dsimp only
  rw [hmagnitude, units, if_neg hlarge, hexponent, Nat.mul_add_mod, Nat.mod_eq_of_lt h]
  exact ⟨rfl, rfl⟩

theorem units_floorMagnitude (amount : Nat) :
    f.units (f.floorMagnitude amount) ≤ amount ∧
      amount < f.units (f.floorMagnitude amount + 1) := by
  rw [units_succ]
  simp only [floorMagnitude]
  by_cases hsmall : amount < 2 ^ (f.fractionBits + 1)
  · rw [if_pos hsmall, f.units_of_lt hsmall]
    have hstep : 0 < 2 ^ (amount / 2 ^ f.fractionBits - 1) := Nat.two_pow_pos _
    omega
  · rw [if_neg hsmall]
    have hne : amount ≠ 0 := by
      have htwo : 0 < 2 ^ (f.fractionBits + 1) := Nat.two_pow_pos _
      omega
    have hlog : f.fractionBits + 1 ≤ amount.log2 := (Nat.le_log2 hne).mpr (by omega)
    obtain ⟨shift, hshift⟩ : ∃ shift, amount.log2 = shift + 1 + f.fractionBits :=
      ⟨amount.log2 - (f.fractionBits + 1), by omega⟩
    have hlow := Nat.log2_self_le hne
    have hhigh : amount < 2 ^ (amount.log2 + 1) := Nat.lt_log2_self
    have hpow : 0 < 2 ^ (shift + 1) := Nat.two_pow_pos _
    rw [hshift] at hlow hhigh ⊢
    rw [Nat.add_sub_cancel]
    have hleast : 2 ^ f.fractionBits ≤ amount / 2 ^ (shift + 1) := by
      rw [Nat.le_div_iff_mul_le hpow, ← Nat.pow_add, Nat.add_comm]
      exact hlow
    have hmost : amount / 2 ^ (shift + 1) < 2 * 2 ^ f.fractionBits := by
      rw [Nat.div_lt_iff_lt_mul hpow, ← Nat.pow_succ', ← Nat.pow_add]
      exact lt_of_lt_of_eq hhigh (by congr 1; omega)
    obtain ⟨fraction, hfraction⟩ := Nat.exists_eq_add_of_le hleast
    have hdivision := Nat.div_add_mod' amount (2 ^ (shift + 1))
    have hremainder := Nat.mod_lt amount hpow
    rw [hfraction] at hmost hdivision ⊢
    obtain ⟨hunits, hexponent⟩ := f.units_leading shift (show fraction < _ by omega)
    rw [hunits, hexponent, Nat.add_succ_sub_one]
    omega

/-! ### Rounding -/

/-- Whether a number is read as a magnitude: it lies between the midpoints around it, which count
for even magnitudes. -/
structure ReadsAs (magnitude : Nat) (value : ℚ) : Prop where
  low : (f.units (magnitude - 1) + f.units magnitude : ℚ) ≤ 2 * value * 2 ^ f.scale
  high : 2 * value * 2 ^ f.scale ≤ f.units magnitude + f.units (magnitude + 1)
  low_ne : magnitude % 2 = 1 →
    (f.units (magnitude - 1) + f.units magnitude : ℚ) ≠ 2 * value * 2 ^ f.scale
  high_ne : magnitude % 2 = 1 →
    2 * value * 2 ^ f.scale ≠ f.units magnitude + f.units (magnitude + 1)

variable {f}

/-- The midpoints around a magnitude, for a fraction given by whole numbers. -/
theorem readsAs_iff {magnitude numerator denominator : Nat} (hpos : 0 < denominator) :
    let amount := numerator * 2 ^ f.scale
    let low := (f.units (magnitude - 1) + f.units magnitude) * denominator
    let high := (f.units magnitude + f.units (magnitude + 1)) * denominator
    f.ReadsAs magnitude (numerator / denominator) ↔ low ≤ 2 * amount ∧ 2 * amount ≤ high ∧
      (magnitude % 2 = 1 → low ≠ 2 * amount ∧ 2 * amount ≠ high) := by
  have hden : (0 : ℚ) < denominator := by exact_mod_cast hpos
  have hvalue : 2 * (numerator / denominator : ℚ) * 2 ^ f.scale =
      ((2 * (numerator * 2 ^ f.scale) : Nat) : ℚ) / denominator := by
    push_cast
    ring
  dsimp only
  constructor
  · rintro ⟨hlow, hhigh, hlowNe, hhighNe⟩
    rw [hvalue] at hlow hhigh hlowNe hhighNe
    rw [le_div_iff₀ hden] at hlow
    rw [div_le_iff₀ hden] at hhigh
    rw [ne_eq, eq_div_iff hden.ne'] at hlowNe
    rw [ne_eq, div_eq_iff hden.ne'] at hhighNe
    refine ⟨by exact_mod_cast hlow, by exact_mod_cast hhigh, fun hodd => ⟨?_, ?_⟩⟩
    · exact fun heq => hlowNe hodd (by exact_mod_cast heq)
    · exact fun heq => hhighNe hodd (by exact_mod_cast heq)
  · rintro ⟨hlow, hhigh, hodd⟩
    constructor
    case low =>
      rw [hvalue, le_div_iff₀ hden]
      exact_mod_cast hlow
    case high =>
      rw [hvalue, div_le_iff₀ hden]
      exact_mod_cast hhigh
    case low_ne =>
      intro hmagnitude
      rw [hvalue, ne_eq, eq_div_iff hden.ne']
      exact_mod_cast (hodd hmagnitude).1
    case high_ne =>
      intro hmagnitude
      rw [hvalue, ne_eq, div_eq_iff hden.ne']
      exact_mod_cast (hodd hmagnitude).2

/-- No number lies between the midpoints around two magnitudes: of two neighbours, the odd one does
not have the midpoint between them. -/
theorem ReadsAs.unique {first second : Nat} {value : ℚ} (hfirst : f.ReadsAs first value)
    (hsecond : f.ReadsAs second value) : first = second := by
  wlog hlt : first < second generalizing first second
  · rcases Nat.eq_or_lt_of_le (not_lt.mp hlt) with heq | hgt
    · exact heq.symm
    · exact (this hsecond hfirst hgt).symm
  exfalso
  have hbetween : (f.units (second - 1) + f.units second : ℚ) ≤
      f.units first + f.units (first + 1) := hsecond.low.trans hfirst.high
  have hunits : f.units (second - 1) + f.units second ≤ f.units first + f.units (first + 1) := by
    exact_mod_cast hbetween
  have hbefore := f.units_strictMono.monotone (Nat.le_sub_one_of_lt hlt)
  have hat := f.units_strictMono.monotone (Nat.succ_le_of_lt hlt)
  have hsucc : second = first + 1 := f.units_strictMono.injective (by
    simp only [Nat.succ_eq_add_one] at hat
    omega)
  subst hsucc
  rw [Nat.add_sub_cancel] at hunits
  have hmiddle : (f.units (first + 1 - 1) + f.units (first + 1) : ℚ) = 2 * value * 2 ^ f.scale :=
    le_antisymm hsecond.low (by rw [Nat.add_sub_cancel]; exact hfirst.high)
  by_cases hodd : first % 2 = 1
  · exact hfirst.high_ne hodd (by rw [← hmiddle, Nat.add_sub_cancel])
  · exact hsecond.low_ne (by omega) hmiddle

/-- Rounding chooses the magnitude that a fraction is read as, up to infinity. -/
theorem exists_readsAs (numerator : Nat) {denominator : Nat} (hpos : 0 < denominator) :
    ∃ chosen, f.ReadsAs chosen (numerator / denominator) ∧
      f.nearest numerator denominator = min chosen f.infinity := by
  refine ⟨_, ?_, rfl⟩
  apply (readsAs_iff hpos).mpr
  generalize numerator * 2 ^ f.scale = amount
  obtain ⟨hbelow, habove⟩ := f.units_floorMagnitude (amount / denominator)
  rw [Nat.le_div_iff_mul_le hpos] at hbelow
  rw [Nat.div_lt_iff_lt_mul hpos] at habove
  generalize f.floorMagnitude (amount / denominator) = below at hbelow habove ⊢
  have hstrict {first second : Nat} (hlt : first < second) :
      f.units first * denominator < f.units second * denominator :=
    Nat.mul_lt_mul_of_pos_right (f.units_strictMono hlt) hpos
  have hlow : (f.units (below - 1) + f.units below) * denominator ≤ 2 * amount ∧
      (below % 2 = 1 → (f.units (below - 1) + f.units below) * denominator ≠ 2 * amount) := by
    have hbefore : f.units (below - 1) * denominator ≤ f.units below * denominator :=
      Nat.mul_le_mul_right denominator (f.units_strictMono.monotone (Nat.sub_le below 1))
    rw [Nat.add_mul]
    refine ⟨by omega, fun hodd => ?_⟩
    have := hstrict (show below - 1 < below by omega)
    omega
  have hhigh : 2 * amount < (f.units (below + 1) + f.units (below + 1 + 1)) * denominator := by
    have := hstrict (Nat.lt_add_one (below + 1))
    rw [Nat.add_mul]
    omega
  split
  · exact ⟨hlow.1, by omega, fun hodd => ⟨hlow.2 hodd, by omega⟩⟩
  · split
    · rw [Nat.add_sub_cancel]
      exact ⟨by omega, hhigh.le, fun _ => ⟨by omega, hhigh.ne⟩⟩
    · split
      · exact ⟨hlow.1, by omega, fun hodd => by omega⟩
      · rw [Nat.add_sub_cancel]
        exact ⟨by omega, hhigh.le, fun hodd => by omega⟩

/-- A fraction is rounded to a finite magnitude exactly if it lies between the midpoints around
it. -/
theorem nearest_eq_iff {magnitude numerator denominator : Nat} (hpos : 0 < denominator)
    (hfinite : magnitude < f.infinity) :
    f.nearest numerator denominator = magnitude ↔
      f.ReadsAs magnitude (numerator / denominator) := by
  obtain ⟨chosen, hchosen, heq⟩ := exists_readsAs (f := f) numerator hpos
  rw [heq]
  constructor
  · intro hmin
    have : chosen = magnitude := by omega
    exact this ▸ hchosen
  · intro hreads
    rw [hreads.unique hchosen] at hfinite ⊢
    exact Nat.min_eq_left hfinite.le

end BinaryFormat

/-! ### Reading decimals -/

def Decimal.absValue (d : Decimal) : ℚ := d.coefficient * 10 ^ d.exponent

theorem Decimal.absValue_of_nonneg {d : Decimal} (h : 0 ≤ d.exponent) :
    d.absValue = ((d.coefficient * 10 ^ d.exponent.toNat : Nat) : ℚ) / (1 : Nat) := by
  obtain ⟨exponent, hexponent⟩ := Int.eq_ofNat_of_zero_le h
  rw [absValue, hexponent]
  simp

theorem Decimal.absValue_of_neg {d : Decimal} (h : d.exponent < 0) :
    d.absValue = (d.coefficient : ℚ) / ((10 ^ (-d.exponent).toNat : Nat) : ℚ) := by
  obtain ⟨exponent, hexponent⟩ := Int.eq_ofNat_of_zero_le (show 0 ≤ -d.exponent by omega)
  rw [absValue, hexponent, show d.exponent = -(exponent : Int) by omega, zpow_neg]
  simp [div_eq_mul_inv]

namespace Binary

variable {f : BinaryFormat} {x : Binary f} {d : Decimal}

theorem scale_le_reach (f : BinaryFormat) : f.scale ≤ f.reach := by
  have hpow : 2 ^ (f.exponentBits - 1) ≤ 2 ^ f.exponentBits :=
    Nat.pow_le_pow_right Nat.zero_lt_two (Nat.sub_le _ 1)
  exact (Nat.sub_le _ 2).trans (Nat.add_le_add_right hpow f.fractionBits)

/-- A decimal that is read as a finite magnitude is not cut off as too large. -/
theorem exponent_le_reach (hfinite : x.IsFinite) (hne : d.coefficient ≠ 0)
    (h : f.ReadsAs x.magnitude d.absValue) : d.exponent ≤ f.reach := by
  by_contra hlarge
  have hunits : f.units x.magnitude + f.units (x.magnitude + 1) ≤ 2 * 2 ^ f.reach := by
    have hfirst := f.units_strictMono.monotone (Nat.le_of_lt hfinite)
    have hsecond := f.units_strictMono.monotone (Nat.succ_le_of_lt hfinite)
    have hbound := f.units_infinity_le
    rw [BinaryFormat.reach]
    simp only [Nat.succ_eq_add_one] at hsecond
    omega
  have hcoefficient : (1 : ℚ) ≤ d.coefficient := by exact_mod_cast Nat.pos_of_ne_zero hne
  have hpow : (10 : ℚ) ^ (f.reach : Int) < 10 ^ d.exponent :=
    zpow_lt_zpow_right₀ (by norm_num) (by omega)
  have hten : (2 : ℚ) ^ f.reach ≤ 10 ^ (f.reach : Int) := by
    rw [zpow_natCast]
    exact pow_le_pow_left₀ (by norm_num) (by norm_num) _
  have hscale : (1 : ℚ) ≤ 2 ^ f.scale := one_le_pow₀ (by norm_num)
  have hvalue : (2 : ℚ) ^ f.reach < d.absValue := by
    calc
      (2 : ℚ) ^ f.reach < 10 ^ d.exponent := hten.trans_lt hpow
      _ ≤ d.absValue := le_mul_of_one_le_left (by positivity) hcoefficient
  have hhigh := h.high
  have hunits' : (f.units x.magnitude + f.units (x.magnitude + 1) : ℚ) ≤ 2 * 2 ^ f.reach := by
    exact_mod_cast hunits
  nlinarith

/-- A decimal that is cut off as too small lies below the midpoint before the least value. -/
theorem two_mul_absValue_lt_one
    (h : d.exponent < -((f.reach + d.coefficient.log2 + 1 : Nat) : Int)) :
    2 * d.absValue * 2 ^ f.scale < 1 := by
  have hcoefficient : (d.coefficient : ℚ) < 2 ^ (d.coefficient.log2 + 1) := by
    exact_mod_cast Nat.lt_log2_self
  calc
    2 * d.absValue * 2 ^ f.scale
      = d.coefficient * 2 ^ (f.scale + 1) * 10 ^ d.exponent := by
        rw [Decimal.absValue]
        ring
    _ < 2 ^ (d.coefficient.log2 + 1) * 2 ^ (f.scale + 1) * 10 ^ d.exponent := by
        gcongr
    _ = 2 ^ (d.coefficient.log2 + f.scale + 2) * 10 ^ d.exponent := by
        rw [← pow_add]
        congr 2
        omega
    _ ≤ 10 ^ (d.coefficient.log2 + f.scale + 2) * 10 ^ d.exponent := by
        gcongr
        norm_num
    _ = 10 ^ ((d.coefficient.log2 + f.scale + 2 : Nat) + d.exponent) := by
        rw [zpow_add₀ (by norm_num), zpow_natCast]
    _ ≤ 10 ^ (0 : Int) := by
        have hscale := scale_le_reach f
        refine zpow_le_zpow_right₀ (by norm_num) ?_
        omega
    _ = 1 := zpow_zero 10

/-- What lies below that midpoint is read as zero, and nothing else does. -/
theorem readsAs_zero {value : ℚ} (hnonneg : 0 ≤ value) (h : 2 * value * 2 ^ f.scale < 1) :
    f.ReadsAs 0 value := by
  have hone : (1 : ℚ) ≤ f.units 1 := by exact_mod_cast f.units_pos Nat.one_ne_zero
  constructor
  case low =>
    rw [Nat.zero_sub, f.units_zero, Nat.cast_zero, add_zero]
    positivity
  case high =>
    rw [f.units_zero, Nat.cast_zero, zero_add, zero_add]
    exact h.le.trans hone
  case low_ne => exact fun hodd => absurd hodd Nat.zero_ne_one
  case high_ne => exact fun hodd => absurd hodd Nat.zero_ne_one

theorem magnitude_eq_zero {magnitude : Nat} {value : ℚ} (hreads : f.ReadsAs magnitude value)
    (h : 2 * value * 2 ^ f.scale < 1) : magnitude = 0 := by
  by_contra hne
  have hone : (1 : ℚ) ≤ f.units magnitude := by exact_mod_cast f.units_pos hne
  have hlow := hreads.low
  have hnonneg : (0 : ℚ) ≤ f.units (magnitude - 1) := Nat.cast_nonneg _
  linarith

/-- A decimal is zero, too large, too small, or a fraction that is rounded. -/
theorem ofDecimal_cases (d : Decimal) :
    d.coefficient = 0 ∧ ofDecimal d = (zero d.negative : Binary f) ∨
      d.coefficient ≠ 0 ∧ (f.reach : Int) < d.exponent ∧
        ofDecimal d = (infinite d.negative : Binary f) ∨
      d.exponent < -((f.reach + d.coefficient.log2 + 1 : Nat) : Int) ∧
        ofDecimal d = (zero d.negative : Binary f) ∨
      ∃ numerator denominator : Nat, 0 < denominator ∧
        d.absValue = (numerator / denominator : ℚ) ∧
          ofDecimal d = (ofFraction d.negative numerator denominator : Binary f) := by
  by_cases hzero : d.coefficient = 0
  · exact .inl ⟨hzero, if_pos hzero⟩
  rw [ofDecimal, if_neg hzero]
  split
  · next hlarge => exact .inr (.inl ⟨hzero, hlarge, rfl⟩)
  split
  · next hsmall => exact .inr (.inr (.inl ⟨hsmall, rfl⟩))
  split
  · next hnonneg =>
    exact .inr (.inr (.inr ⟨_, 1, Nat.one_pos, Decimal.absValue_of_nonneg hnonneg, rfl⟩))
  · next hneg =>
    exact .inr (.inr (.inr ⟨_, _, Nat.pow_pos (by norm_num),
      Decimal.absValue_of_neg (not_le.mp hneg), rfl⟩))

theorem absValue_of_coefficient_eq_zero (h : d.coefficient = 0) : d.absValue = 0 := by
  rw [Decimal.absValue, h, Nat.cast_zero, zero_mul]

/-- A decimal is read as a finite value exactly if it has the sign of the value and lies between the
midpoints around it: reading rounds once, and correctly. -/
theorem ofDecimal_eq_iff (hfinite : x.IsFinite) :
    ofDecimal d = x ↔ d.negative = x.negative ∧ f.ReadsAs x.magnitude d.absValue := by
  have hzero : (2 : ℚ) * 0 * 2 ^ f.scale < 1 := by norm_num
  have habs : 0 ≤ d.absValue := by
    rw [Decimal.absValue]
    positivity
  constructor
  · rintro rfl
    rcases ofDecimal_cases (f := f) d with ⟨hcoefficient, heq⟩ | ⟨-, -, heq⟩ | ⟨hsmall, heq⟩ |
      ⟨numerator, denominator, hpos, hvalue, heq⟩
    · rw [heq]
      refine ⟨rfl, readsAs_zero habs ?_⟩
      rw [absValue_of_coefficient_eq_zero hcoefficient]
      exact hzero
    · rw [heq] at hfinite
      exact absurd hfinite (lt_irrefl f.infinity)
    · rw [heq]
      exact ⟨rfl, readsAs_zero habs (two_mul_absValue_lt_one hsmall)⟩
    · rw [heq] at hfinite ⊢
      rw [hvalue]
      exact ⟨rfl, (BinaryFormat.nearest_eq_iff hpos hfinite).mp rfl⟩
  · rintro ⟨hsign, hreads⟩
    have hmagnitude {y : Binary f} (hnegative : y.negative = d.negative)
        (hy : y.magnitude = x.magnitude) : y = x := by
      obtain ⟨negative, magnitude, hmagnitudes⟩ := x
      obtain ⟨negative', magnitude', hmagnitudes'⟩ := y
      simp only at hnegative hy hsign
      subst hnegative hy hsign
      rfl
    rcases ofDecimal_cases (f := f) d with ⟨hcoefficient, heq⟩ | ⟨hne, hlarge, heq⟩ |
      ⟨hsmall, heq⟩ | ⟨numerator, denominator, hpos, hvalue, heq⟩
    · rw [absValue_of_coefficient_eq_zero hcoefficient] at hreads
      rw [heq]
      exact hmagnitude rfl (magnitude_eq_zero hreads hzero).symm
    · exact absurd (exponent_le_reach hfinite hne hreads) (not_le.mpr hlarge)
    · rw [heq]
      exact hmagnitude rfl (magnitude_eq_zero hreads (two_mul_absValue_lt_one hsmall)).symm
    · rw [hvalue] at hreads
      rw [heq]
      exact hmagnitude rfl ((BinaryFormat.nearest_eq_iff hpos hfinite).mpr hreads)

end Binary
end IconForge
