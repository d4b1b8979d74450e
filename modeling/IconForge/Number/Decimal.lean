import IconForge.Number.Binary
import IconForge.Number.Digits

/-!
# Decimals and their nearest binary values

A decimal is a signed whole number times a power of ten. Reading it into a binary format is exact
arithmetic followed by one rounding. Exponents far outside the range of the format are decided
first, so that no power of ten larger than the format can use is ever formed.
-/

namespace IconForge

/-! Powers are the built-in ones, whatever algebraic structures are in scope. -/
attribute [local instance (2000)] instPowNat

/-- The number `coefficient * 10 ^ exponent` with a sign, which a zero has as well. -/
structure Decimal where
  negative : Bool
  coefficient : Nat
  exponent : Int
  deriving DecidableEq

/-- A power of ten that exceeds every finite value, and whose inverse is below half the least
positive one. -/
def BinaryFormat.reach (f : BinaryFormat) : Nat := 2 ^ f.exponentBits + f.fractionBits

def Binary.ofDecimal {f : BinaryFormat} (d : Decimal) : Binary f :=
  if d.coefficient = 0 then
    zero d.negative
  else if (f.reach : Int) < d.exponent then
    infinite d.negative
  else if d.exponent < -((f.reach + d.coefficient.log2 + 1 : Nat) : Int) then
    zero d.negative
  else if 0 ≤ d.exponent then
    ofFraction d.negative (d.coefficient * 10 ^ d.exponent.toNat) 1
  else
    ofFraction d.negative d.coefficient (10 ^ (-d.exponent).toNat)

end IconForge
