/-!
# Binary interchange formats

A value is a sign and a magnitude. The magnitudes of one sign are counted from zero upwards in the
order of their values, so that magnitude `0` is zero, magnitude `1` the least positive value, and
the magnitude after the greatest finite one is infinity; all later ones are not numbers. This count
is also the bit pattern without its sign bit.
-/

namespace IconForge

/-! Powers are the built-in ones, whatever algebraic structures are in scope. -/
attribute [local instance (2000)] instPowNat

/-- The widths of the stored fraction and exponent. -/
structure BinaryFormat where
  fractionBits : Nat
  exponentBits : Nat

namespace BinaryFormat

def single : BinaryFormat := ⟨23, 8⟩

def double : BinaryFormat := ⟨52, 11⟩

variable (f : BinaryFormat)

/-- Every finite value is a whole multiple of `2 ^ (-scale)`. -/
def scale : Nat := 2 ^ (f.exponentBits - 1) + f.fractionBits - 2

/-- The magnitude of infinity. -/
def infinity : Nat := (2 ^ f.exponentBits - 1) * 2 ^ f.fractionBits

def magnitudes : Nat := 2 ^ (f.exponentBits + f.fractionBits)

/-- The value of a magnitude, in units of `2 ^ (-scale)`. -/
def units (magnitude : Nat) : Nat :=
  if magnitude < 2 ^ f.fractionBits then
    magnitude
  else
    (2 ^ f.fractionBits + magnitude % 2 ^ f.fractionBits) *
      2 ^ (magnitude / 2 ^ f.fractionBits - 1)

/-- The greatest magnitude whose value is at most a number of units. -/
def floorMagnitude (amount : Nat) : Nat :=
  if amount < 2 ^ (f.fractionBits + 1) then
    amount
  else
    let shift := amount.log2 - f.fractionBits
    shift * 2 ^ f.fractionBits + amount / 2 ^ shift

/-- The magnitude nearest to `numerator / denominator`; of two equally near ones the even one.
From halfway between the greatest finite value and its successor on, this is infinity. -/
def nearest (numerator denominator : Nat) : Nat :=
  let amount := numerator * 2 ^ f.scale
  let below := f.floorMagnitude (amount / denominator)
  let halfway := (f.units below + f.units (below + 1)) * denominator
  let chosen :=
    if 2 * amount < halfway then below
    else if halfway < 2 * amount then below + 1
    else if below % 2 = 0 then below
    else below + 1
  min chosen f.infinity

theorem infinity_lt_magnitudes : f.infinity < f.magnitudes := by
  have h : 0 < 2 ^ f.fractionBits := Nat.two_pow_pos _
  have e : 0 < 2 ^ f.exponentBits := Nat.two_pow_pos _
  rw [infinity, magnitudes, Nat.pow_add]
  exact Nat.mul_lt_mul_of_pos_right (by omega) h

theorem nearest_lt_magnitudes (numerator denominator : Nat) :
    f.nearest numerator denominator < f.magnitudes :=
  Nat.lt_of_le_of_lt (Nat.min_le_right _ _) f.infinity_lt_magnitudes

end BinaryFormat

structure Binary (f : BinaryFormat) where
  negative : Bool
  magnitude : Nat
  magnitude_lt : magnitude < f.magnitudes
  deriving DecidableEq

abbrev Binary32 := Binary .single

/-- The numbers that documents are read into first. -/
abbrev Binary64 := Binary .double

namespace Binary

variable {f g : BinaryFormat}

def IsFinite (x : Binary f) : Prop := x.magnitude < f.infinity

instance (x : Binary f) : Decidable x.IsFinite :=
  inferInstanceAs (Decidable (_ < _))

def IsNaN (x : Binary f) : Prop := f.infinity < x.magnitude

instance (x : Binary f) : Decidable x.IsNaN :=
  inferInstanceAs (Decidable (_ < _))

def zero (negative : Bool) : Binary f :=
  ⟨negative, 0, Nat.lt_of_le_of_lt (Nat.zero_le _) f.infinity_lt_magnitudes⟩

def infinite (negative : Bool) : Binary f :=
  ⟨negative, f.infinity, f.infinity_lt_magnitudes⟩

def ofFraction (negative : Bool) (numerator denominator : Nat) : Binary f :=
  ⟨negative, f.nearest numerator denominator, f.nearest_lt_magnitudes _ _⟩

def ofInt (n : Int) : Binary f := ofFraction (decide (n < 0)) n.natAbs 1

/-- The value of a pattern of bits, the sign on top; bits beyond the sign are dropped. -/
def ofBits (bits : Nat) : Binary f :=
  ⟨bits / f.magnitudes % 2 = 1, bits % f.magnitudes,
    Nat.mod_lt _ (Nat.two_pow_pos _)⟩

/-- A value that is not a number: the pattern after that of infinity. -/
def nan : Binary32 := ⟨false, BinaryFormat.single.infinity + 1, by decide⟩

def convert (x : Binary f) : Binary g :=
  if x.IsFinite then
    ofFraction x.negative (f.units x.magnitude) (2 ^ f.scale)
  else if x.IsNaN then
    ofBits (g.infinity + 1)
  else
    infinite x.negative

end Binary

end IconForge
