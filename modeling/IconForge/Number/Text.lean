import IconForge.Number.Shortest

/-!
# Numbers as text

Two spellings of a 32-bit value, both with its shortest digits: the literal of generated code, which
always shows that it is not a whole number type, and the plain spelling of messages.
-/

namespace IconForge

/-- Literals are positional for magnitudes from `10 ^ leastPositional` up to below
`10 ^ leastExponential`. -/
structure LiteralRange where
  leastPositional : Int
  leastExponential : Int

namespace Decimal

def leadingExponent (d : Decimal) : Int := d.exponent + (digitsOf d.coefficient).length - 1

/-- Digits before and after the point, without exponent; the second list may be empty. -/
def positional (d : Decimal) : List Char × List Char :=
  let digits := digitsOf d.coefficient
  if 0 ≤ d.exponent then
    (digits ++ List.replicate d.exponent.toNat '0', [])
  else
    let places := (-d.exponent).toNat
    if places < digits.length then
      (digits.take (digits.length - places), digits.drop (digits.length - places))
    else
      (['0'], List.replicate (places - digits.length) '0' ++ digits)

/-- One digit, the others after a point if there are any, and the exponent. -/
def exponential (d : Decimal) : List Char :=
  let mantissa :=
    match digitsOf d.coefficient with
    | [] => []
    | [digit] => [digit]
    | digit :: others => digit :: '.' :: others
  let exponent := d.leadingExponent
  mantissa ++ 'e' :: ((if exponent < 0 then ['-'] else []) ++ digitsOf exponent.natAbs)

/-- At least one digit stands after the point of a positional literal; an exponential one has
only the digits it needs. -/
def literal (range : LiteralRange) (d : Decimal) : List Char :=
  let leading := d.leadingExponent
  if d.coefficient = 0 then
    ['0', '.', '0']
  else if range.leastPositional ≤ leading ∧ leading < range.leastExponential then
    match d.positional with
    | (whole, []) => whole ++ ['.', '0']
    | (whole, fraction) => whole ++ '.' :: fraction
  else
    d.exponential

/-- Digits without an exponent, and with a point only where digits follow it. -/
def plain (d : Decimal) : List Char :=
  match d.positional with
  | (whole, []) => whole
  | (whole, fraction) => whole ++ '.' :: fraction

end Decimal

namespace Binary

variable {f : BinaryFormat}

/-- Text of a value, given how the digits of a finite one are spelled. -/
def textWith (spell : Decimal → List Char) (x : Binary f) : String :=
  if x.IsNaN then
    "NaN"
  else
    let body := if x.IsFinite then spell x.shortest else "inf".toList
    String.ofList (if x.negative then '-' :: body else body)

/-- The range in which generated literals have no exponent. -/
def literalRange : LiteralRange := ⟨-4, 16⟩

/-- A number of generated code, such as `1.0`, `0.5` or `1e16`. -/
def text (x : Binary f) : String := x.textWith (Decimal.literal literalRange)

/-- A number of generated code with the suffix of its type. -/
def literal (x : Binary f) : String := x.text ++ "f"

def plainText (x : Binary f) : String := x.textWith Decimal.plain

end Binary

end IconForge
