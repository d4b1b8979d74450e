import IconForge.Number.Decimal

/-!
# The shortest decimal of a binary value

The numbers that are read back as a given value form an interval around it: from halfway to its
predecessor to halfway to its successor, with both ends if the magnitude is even. The shortest
decimal lies on the coarsest grid of multiples of a power of ten that meets this interval, and is
the nearest such point to the value, the greater one of two.
-/

namespace IconForge
namespace BinaryFormat

/-! Powers are the built-in ones, whatever algebraic structures are in scope. -/
attribute [local instance (2000)] instPowNat

variable (f : BinaryFormat)

/-- Places after the point on the finest grid that is tried. -/
def finestPlaces : Nat := (f.scale + 2) / 3 + 1

/-- Twice the value of a number of units, in units fine enough for every grid. -/
def refine (twiceUnits : Nat) : Nat := twiceUnits * 10 ^ f.finestPlaces

/-- The step of the grid with `level` places less than the finest one, in the units of `refine`. -/
def gridStep (level : Nat) : Nat := 2 ^ (f.scale + 1) * 10 ^ level

/-- A value with the ends of the interval of numbers that are read back as it. -/
structure ReadRange where
  low : Nat
  value : Nat
  high : Nat
  /-- Whether the ends are read back as the value, too. -/
  closed : Bool

/-- The range of a magnitude, in the units of `refine`. -/
def readRange (magnitude : Nat) : ReadRange where
  low := f.refine (f.units (magnitude - 1) + f.units magnitude)
  value := f.refine (2 * f.units magnitude)
  high := f.refine (f.units magnitude + f.units (magnitude + 1))
  closed := magnitude % 2 = 0

namespace ReadRange

/-- Whether a number is read back as the value. -/
def Holds (range : ReadRange) (point : Nat) : Prop :=
  if range.closed then range.low ≤ point ∧ point ≤ range.high
  else range.low < point ∧ point < range.high

instance (range : ReadRange) (point : Nat) : Decidable (range.Holds point) := by
  unfold Holds
  infer_instance

/-- The multiple of a step that is read back as the value; the nearer one of two, the greater one of
two equally near. -/
def gridPoint? (range : ReadRange) (step : Nat) : Option Nat :=
  let below := range.value / step
  match decide (range.Holds (below * step)), decide (range.Holds ((below + 1) * step)) with
  | true, true =>
    if 2 * (range.value - below * step) < step then some below else some (below + 1)
  | true, false => some below
  | false, true => some (below + 1)
  | false, false => none

end ReadRange

/-- The level that is tried first: one whose step exceeds every number of the range. A binary digit
is worth less than `302 / 1000` of a decimal one. -/
def firstLevel (range : ReadRange) : Nat :=
  ((range.high / f.gridStep 0).log2 + 1) * 302 / 1000 + 1

/-- The first hit from a level downwards; the finest grid is taken as it is. -/
def shortestFrom (range : ReadRange) : Nat → Nat × Nat
  | 0 => ((range.gridPoint? (f.gridStep 0)).getD 0, 0)
  | level + 1 =>
    match range.gridPoint? (f.gridStep (level + 1)) with
    | some point => (point, level + 1)
    | none => shortestFrom range level

end BinaryFormat

/-- The shortest decimal that is read back as the value. -/
def Binary.shortest {f : BinaryFormat} (x : Binary f) : Decimal :=
  if x.magnitude = 0 then
    ⟨x.negative, 0, 0⟩
  else
    let range := f.readRange x.magnitude
    let (point, level) := f.shortestFrom range (f.firstLevel range)
    ⟨x.negative, point, (level : Int) - f.finestPlaces⟩

end IconForge
