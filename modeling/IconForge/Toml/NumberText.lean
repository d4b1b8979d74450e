import IconForge.Text.Hexadecimal
import IconForge.Toml.Value

/-!
# TOML numbers, dates and times

A reader answers the value at the front of a text and the text after it. It may stop early, as at
the second underscore of `1__0`: what it leaves can begin nothing that may follow a value.
-/

namespace IconForge
namespace Toml

/-! Powers are the built-in ones, whatever algebraic structures are in scope. -/
attribute [local instance (2000)] instPowNat Int.instNatPow

/-- Digits of a class at the front of a text; an underscore may stand between two of them. -/
def moreDigits (isDigit : Char → Bool) : List Char → List Char × List Char
  | '_' :: c :: rest =>
    if isDigit c then
      let (digits, after) := moreDigits isDigit rest
      (c :: digits, after)
    else
      ([], '_' :: c :: rest)
  | c :: rest =>
    if isDigit c then
      let (digits, after) := moreDigits isDigit rest
      (c :: digits, after)
    else
      ([], c :: rest)
  | [] => ([], [])

def digits? (isDigit : Char → Bool) : List Char → Option (List Char × List Char)
  | [] => none
  | c :: rest =>
    if isDigit c then
      let (digits, after) := moreDigits isDigit rest
      some (c :: digits, after)
    else
      none

/-- The digits of a decimal whole number: a zero alone, or digits that begin with another one. -/
def wholeDigits? : List Char → Option (List Char × List Char)
  | '0' :: rest => some (['0'], rest)
  | text => digits? Char.isDigit text

/-- Whether a sign at the front of a text is a minus, and the text after it. -/
def splitMinus : List Char → Bool × List Char
  | '-' :: rest => (true, rest)
  | '+' :: rest => (false, rest)
  | text => (false, text)

def exponent? : List Char → Option (Int × List Char)
  | [] => none
  | mark :: rest => do
    guard (mark = 'e' ∨ mark = 'E')
    let (negative, unsigned) := splitMinus rest
    let (digits, after) ← digits? Char.isDigit unsigned
    let value : Int := digitsValue digits
    return (if negative then -value else value, after)

def fraction? : List Char → Option (List Char × List Char)
  | '.' :: rest => digits? Char.isDigit rest
  | _ => none

/-- A float written in decimal; one beyond the greatest finite value is refused, one beyond the
least is the negative infinity. -/
def decimalFloat? (text : List Char) : Option (Binary64 × List Char) := do
  let (negative, unsigned) := splitMinus text
  let (whole, afterWhole) ← wholeDigits? unsigned
  let (fraction, exponent, after) ←
    match fraction? afterWhole with
    | some (fraction, afterFraction) =>
      let (exponent, after) := (exponent? afterFraction).getD (0, afterFraction)
      some (fraction, exponent, after)
    | none => do
      let (exponent, after) ← exponent? afterWhole
      pure ([], exponent, after)
  let value : Binary64 :=
    .ofDecimal ⟨negative, digitsValue (whole ++ fraction), exponent - fraction.length⟩
  guard (value ≠ .infinite false)
  return (value, after)

def specialFloat? (text : List Char) : Option (Binary64 × List Char) :=
  let (negative, unsigned) := splitMinus text
  match unsigned with
  | 'i' :: 'n' :: 'f' :: rest => some (.infinite negative, rest)
  | 'n' :: 'a' :: 'n' :: rest => some (.ofBits (BinaryFormat.double.infinity + 1), rest)
  | _ => none

def float? (text : List Char) : Option (Binary64 × List Char) :=
  decimalFloat? text <|> specialFloat? text

/-- The integers that a document may hold: those of 64 bits. -/
def inIntegerRange (n : Int) : Prop := -2 ^ (63 : Nat) ≤ n ∧ n < 2 ^ (63 : Nat)

instance (n : Int) : Decidable (inIntegerRange n) := inferInstanceAs (Decidable (_ ∧ _))

/-- A whole number in some base, after the mark of the base. -/
def integerInBase? (base : Nat) (isDigit : Char → Bool) (text : List Char) :
    Option (Int × List Char) := do
  let (digits, after) ← digits? isDigit text
  let value : Int := numberOfDigits base (digits.reverse.map Text.digitValue)
  guard (inIntegerRange value)
  return (value, after)

def integer? : List Char → Option (Int × List Char)
  | '0' :: 'x' :: rest => integerInBase? 16 Text.isHexDigit rest
  | '0' :: 'o' :: rest => integerInBase? 8 (fun c => '0' ≤ c && c ≤ '7') rest
  | '0' :: 'b' :: rest => integerInBase? 2 (fun c => c = '0' || c = '1') rest
  | text => do
    let (negative, unsigned) := splitMinus text
    let (digits, after) ← wholeDigits? unsigned
    let magnitude : Int := digitsValue digits
    let value := if negative then -magnitude else magnitude
    guard (inIntegerRange value)
    return (value, after)

/-- A number of exactly `count` digits within bounds. -/
def boundedNumber? (count least greatest : Nat) (text : List Char) : Option (Nat × List Char) := do
  let digits := text.take count
  guard (digits.length = count ∧ digits.all Char.isDigit)
  let value := digitsValue digits
  guard (least ≤ value ∧ value ≤ greatest)
  return (value, text.drop count)

def char? (expected : Char) : List Char → Option (List Char)
  | [] => none
  | c :: rest => if c = expected then some rest else none

def daysOfMonth (year month : Nat) : Nat :=
  if month = 2 then
    if year % 4 = 0 ∧ (year % 100 ≠ 0 ∨ year % 400 = 0) then 29 else 28
  else if month = 4 ∨ month = 6 ∨ month = 9 ∨ month = 11 then
    30
  else
    31

/-- A day of the calendar; the answer is the text after it. -/
def date? (text : List Char) : Option (List Char) := do
  let (year, text) ← boundedNumber? 4 0 9999 text
  let text ← char? '-' text
  let (month, text) ← boundedNumber? 2 1 12 text
  let text ← char? '-' text
  let (_, text) ← boundedNumber? 2 1 (daysOfMonth year month) text
  return text

def skipSecondFraction : List Char → List Char
  | '.' :: c :: rest => if c.isDigit then rest.dropWhile Char.isDigit else '.' :: c :: rest
  | text => text

/-- A time of the day; a minute may have a leap second. -/
def time? (text : List Char) : Option (List Char) := do
  let (_, text) ← boundedNumber? 2 0 23 text
  let text ← char? ':' text
  let (_, text) ← boundedNumber? 2 0 59 text
  let text ← char? ':' text
  let (_, text) ← boundedNumber? 2 0 60 text
  return skipSecondFraction text

def offset? : List Char → Option (List Char)
  | [] => none
  | c :: text => do
    if c = 'Z' ∨ c = 'z' then
      return text
    guard (c = '+' ∨ c = '-')
    let (_, text) ← boundedNumber? 2 0 23 text
    let text ← char? ':' text
    let (_, text) ← boundedNumber? 2 0 59 text
    return text

/-- A time after the date, with its offset if there is one. -/
def timeOfDate? : List Char → Option (List Char)
  | [] => none
  | c :: text => do
    guard (c = 'T' ∨ c = 't' ∨ c = ' ')
    let text ← time? text
    return (offset? text).getD text

/-- A date, a time, or both; the answer is the text after it. -/
def dateTime? (text : List Char) : Option (List Char) :=
  (do
    let text ← date? text
    return (timeOfDate? text).getD text) <|> time? text

end Toml
end IconForge
