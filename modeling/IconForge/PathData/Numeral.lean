import IconForge.Number.Decimal

/-!
# Numerals of path data

A numeral is an optional sign, digits with an optional point among or around them, and an optional
exponent. `Numeral.scan` takes the longest one from the front of a text, and `Numeral.text` is what
it took.
-/

namespace IconForge
namespace PathData

structure Exponent where
  mark : Char
  sign : List Char
  digits : List Char
  deriving DecidableEq

/-- A numeral in its parts. The fraction is absent if there is no point. -/
structure Numeral where
  sign : List Char
  whole : List Char
  fraction : Option (List Char)
  exponent : Option Exponent
  deriving DecidableEq

namespace Exponent

def text (e : Exponent) : List Char := e.mark :: (e.sign ++ e.digits)

def value (e : Exponent) : Int :=
  if e.sign = ['-'] then -(digitsValue e.digits : Int) else digitsValue e.digits

end Exponent

def fractionText : Option (List Char) → List Char
  | some digits => '.' :: digits
  | none => []

def exponentText : Option Exponent → List Char
  | some e => e.text
  | none => []

/-- A sign at the front of a text, and what follows. -/
def splitSign : List Char → List Char × List Char
  | '+' :: rest => (['+'], rest)
  | '-' :: rest => (['-'], rest)
  | rest => ([], rest)

/-- The digits at the front of a text, and what follows. -/
def splitDigits (text : List Char) : List Char × List Char :=
  (text.takeWhile Char.isDigit, text.dropWhile Char.isDigit)

/-- An exponent at the front of a text, if a digit follows its mark and sign. -/
def splitExponent : List Char → Option Exponent × List Char
  | [] => (none, [])
  | mark :: rest =>
    let signed := splitSign rest
    let digits := splitDigits signed.2
    if (mark = 'e' ∨ mark = 'E') ∧ digits.1 ≠ [] then
      (some ⟨mark, signed.1, digits.1⟩, digits.2)
    else
      (none, mark :: rest)

/-- Whole part and fraction at the front of a text: at least one digit in all. -/
def splitMantissa (text : List Char) : Option (List Char × Option (List Char) × List Char) :=
  let whole := splitDigits text
  match whole.2 with
  | '.' :: afterPoint =>
    let fraction := splitDigits afterPoint
    if whole.1 = [] ∧ fraction.1 = [] then none else some (whole.1, some fraction.1, fraction.2)
  | _ => if whole.1 = [] then none else some (whole.1, none, whole.2)

namespace Numeral

def text (n : Numeral) : List Char :=
  n.sign ++ n.whole ++ fractionText n.fraction ++ exponentText n.exponent

/-- The longest numeral at the front of a text, and what follows it. -/
def scan (text : List Char) : Option (Numeral × List Char) :=
  let signed := splitSign text
  match splitMantissa signed.2 with
  | none => none
  | some (whole, fraction, afterMantissa) =>
    let exponent := splitExponent afterMantissa
    some (⟨signed.1, whole, fraction, exponent.1⟩, exponent.2)

def toDecimal (n : Numeral) : Decimal :=
  let fraction := n.fraction.getD []
  let exponent := match n.exponent with | some e => e.value | none => 0
  ⟨n.sign = ['-'], digitsValue (n.whole ++ fraction), exponent - fraction.length⟩

end Numeral

theorem splitSign_append (text : List Char) : (splitSign text).1 ++ (splitSign text).2 = text := by
  unfold splitSign
  split <;> rfl

theorem splitDigits_append (text : List Char) :
    (splitDigits text).1 ++ (splitDigits text).2 = text :=
  List.takeWhile_append_dropWhile

theorem splitExponent_append (text : List Char) :
    exponentText (splitExponent text).1 ++ (splitExponent text).2 = text := by
  cases text with
  | nil => rfl
  | cons mark rest =>
    simp only [splitExponent]
    split
    · simp [exponentText, Exponent.text, splitDigits_append, splitSign_append]
    · rfl

theorem splitMantissa_append {text whole after : List Char} {fraction : Option (List Char)}
    (h : splitMantissa text = some (whole, fraction, after)) :
    whole ++ fractionText fraction ++ after = text := by
  have whole_append := splitDigits_append text
  simp only [splitMantissa] at h
  split at h
  · next afterPoint point =>
    split at h
    · cases h
    · cases h
      rw [point] at whole_append
      simpa [fractionText, splitDigits_append] using whole_append
  · split at h
    · cases h
    · cases h
      simpa [fractionText] using whole_append

theorem splitMantissa_ne_nil {text whole after : List Char} {fraction : Option (List Char)}
    (h : splitMantissa text = some (whole, fraction, after)) : whole ≠ [] ∨ fraction ≠ none := by
  simp only [splitMantissa] at h
  split at h
  · split at h
    · cases h
    · cases h
      simp
  · split at h
    · cases h
    · cases h
      exact .inl ‹_›

namespace Numeral

theorem text_append_of_scan {text rest : List Char} {n : Numeral}
    (h : scan text = some (n, rest)) : n.text ++ rest = text := by
  simp only [scan] at h
  split at h
  · cases h
  · next whole fraction afterMantissa mantissa =>
    cases h
    simp only [Numeral.text, List.append_assoc, splitExponent_append]
    rw [← List.append_assoc whole, splitMantissa_append mantissa, splitSign_append]

theorem text_ne_nil_of_scan {text rest : List Char} {n : Numeral}
    (h : scan text = some (n, rest)) : n.text ≠ [] := by
  simp only [scan] at h
  split at h
  · cases h
  · next whole fraction afterMantissa mantissa =>
    cases h
    rcases splitMantissa_ne_nil mantissa with whole_ne | fraction_ne
    · simp [Numeral.text, whole_ne]
    · cases fraction with
      | none => exact absurd rfl fraction_ne
      | some digits => simp [Numeral.text, fractionText]

theorem length_lt_of_scan {text rest : List Char} {n : Numeral}
    (h : scan text = some (n, rest)) : rest.length < text.length := by
  have total := congrArg List.length (text_append_of_scan h)
  have positive := List.length_pos_iff.2 (text_ne_nil_of_scan h)
  rw [List.length_append] at total
  omega

end Numeral
end PathData
end IconForge
