import IconForge.Number.Text
import IconForge.Proofs.Number.Shortest
import IconForge.Proofs.PathData.Numerals

/-!
# Reading literals

The text of a finite value is a numeral that the scanner of path data takes as a whole, whatever
follows it, if only no digit and no exponent does (`Binary.scan_text`). The decimal of that numeral
is read as the value. Hence the text of a number tells where it ends and which number it is
(`Binary.text_append_inj`).
-/

namespace IconForge

/-! ### Digits -/

theorem digitsValue_eq (digits : List Char) :
    digitsValue digits = Nat.ofDigitChars 10 digits 0 := by
  rw [digitsValue, numberOfDigits_eq, List.foldr_map, List.foldr_reverse, Nat.ofDigitChars]
  congr 1
  funext value digit
  exact Nat.add_comm _ _

theorem digitsValue_digitsOf (n : Nat) : digitsValue (digitsOf n) = n := by
  rw [digitsValue_eq, digitsOf, Nat.ofDigitChars_ten_toDigits]

theorem digitsValue_zeros_append (count : Nat) (digits : List Char) :
    digitsValue (List.replicate count '0' ++ digits) = digitsValue digits := by
  rw [digitsValue_eq, digitsValue_eq, Nat.ofDigitChars_append, Nat.ofDigitChars_replicate_zero,
    Nat.mul_zero]

theorem digitsValue_append_zeros (digits : List Char) (count : Nat) :
    digitsValue (digits ++ List.replicate count '0') = digitsValue digits * 10 ^ count := by
  rw [digitsValue_eq, digitsValue_eq, Nat.ofDigitChars_append, Nat.ofDigitChars_replicate_zero,
    Nat.mul_comm]

theorem allDigits_digitsOf (n : Nat) : AllDigits (digitsOf n) :=
  fun _ hc => Nat.isDigit_of_mem_toDigits (by norm_num) (by norm_num) hc

theorem allDigits_zeros (count : Nat) : AllDigits (List.replicate count '0') := by
  intro c hc
  rw [List.eq_of_mem_replicate hc]
  rfl

theorem digitsOf_ne_nil (n : Nat) : digitsOf n ≠ [] := Nat.toDigits_ne_nil

namespace PathData

/-! ### Scanning -/

structure Exponent.IsLiteral (e : Exponent) : Prop where
  mark : e.mark = 'e'
  sign : e.sign = [] ∨ e.sign = ['-']
  digits : AllDigits e.digits
  digits_ne : e.digits ≠ []

/-- The numeral of a literal. It shows by a point or an exponent that it is no whole number. -/
structure Numeral.IsLiteral (n : Numeral) : Prop where
  sign : n.sign = [] ∨ n.sign = ['-']
  whole : AllDigits n.whole
  whole_ne : n.whole ≠ []
  fraction : ∀ digits, n.fraction = some digits → AllDigits digits
  exponent : ∀ e, n.exponent = some e → e.IsLiteral
  marked : n.fraction ≠ none ∨ n.exponent ≠ none

theorem Exponent.IsLiteral.isWellFormed {e : Exponent} (h : e.IsLiteral) : e.IsWellFormed :=
  ⟨.inl h.mark, h.sign.imp_right .inr, h.digits, h.digits_ne⟩

namespace Numeral

theorem IsLiteral.isWellFormed {n : Numeral} (h : n.IsLiteral) : n.IsWellFormed :=
  ⟨h.sign.imp_right .inr, h.whole, h.fraction, .inl h.whole_ne,
    fun e he => (h.exponent e he).isWellFormed⟩

theorem scan_literal {n : Numeral} {rest : List Char} (h : n.IsLiteral)
    (hrest : EndsNumeral rest) : scan (n.text ++ rest) = some (n, rest) := by
  refine scan_text h.isWellFormed hrest fun hfraction hexponent => ?_
  rcases h.marked with hne | hne
  · exact absurd hfraction hne
  · exact absurd hexponent hne

end Numeral
end PathData

/-! ### The numeral of a literal -/

open PathData (Numeral EndsNumeral)

def signText (negative : Bool) : List Char := if negative then ['-'] else []

theorem signText_cases (negative : Bool) :
    signText negative = [] ∨ signText negative = ['-'] := by
  cases negative with
  | false => exact .inl rfl
  | true => exact .inr rfl

theorem decide_signText (negative : Bool) : decide (signText negative = ['-']) = negative := by
  cases negative with
  | false => rfl
  | true => rfl

namespace Decimal

/-- A numeral that spells a decimal with its sign in front. -/
structure IsSpelledBy (d : Decimal) (text : List Char) (n : Numeral) : Prop where
  literal : n.IsLiteral
  text_eq : n.text = signText d.negative ++ text
  negative_eq : n.toDecimal.negative = d.negative
  absValue_eq : n.toDecimal.absValue = d.absValue

theorem isSpelledBy_zero {d : Decimal} (h : d.coefficient = 0) :
    d.IsSpelledBy ['0', '.', '0'] ⟨signText d.negative, ['0'], some ['0'], none⟩ := by
  constructor
  case literal =>
    refine ⟨signText_cases _, allDigits_zeros 1, by simp, ?_, by simp, .inl (by simp)⟩
    rintro _ ⟨⟩
    exact allDigits_zeros 1
  case text_eq => simp [Numeral.text, PathData.fractionText, PathData.exponentText]
  case negative_eq => exact decide_signText _
  case absValue_eq =>
    rw [absValue, absValue, h]
    simp [Numeral.toDecimal, show digitsValue ['0', '0'] = 0 from rfl]

/-- A numeral without an exponent that has the digits of a decimal, its point placed right. -/
theorem isSpelledBy_pointed {d : Decimal} {whole fraction : List Char} (hwhole : AllDigits whole)
    (hne : whole ≠ []) (hfraction : AllDigits fraction)
    (hvalue : (digitsValue (whole ++ fraction) : ℚ) * 10 ^ (-(fraction.length : Int)) =
      d.absValue) :
    d.IsSpelledBy (whole ++ '.' :: fraction) ⟨signText d.negative, whole, some fraction, none⟩ := by
  constructor
  case literal =>
    refine ⟨signText_cases _, hwhole, hne, ?_, by simp, .inl (by simp)⟩
    rintro _ ⟨⟩
    exact hfraction
  case text_eq => simp [Numeral.text, PathData.fractionText, PathData.exponentText]
  case negative_eq => exact decide_signText _
  case absValue_eq => simpa [absValue, Numeral.toDecimal] using hvalue

/-- The digits before and behind the point are those of the decimal, the point placed right. -/
theorem positional_spec (d : Decimal) :
    AllDigits d.positional.1 ∧ d.positional.1 ≠ [] ∧ AllDigits d.positional.2 ∧
      (digitsValue (d.positional.1 ++ d.positional.2) : ℚ) *
        10 ^ (-(d.positional.2.length : Int)) = d.absValue := by
  have hdigits := allDigits_digitsOf d.coefficient
  have hne := digitsOf_ne_nil d.coefficient
  have hcoefficient := digitsValue_digitsOf d.coefficient
  rw [positional]
  generalize digitsOf d.coefficient = digits at hdigits hne hcoefficient ⊢
  by_cases hexponent : 0 ≤ d.exponent
  · rw [if_pos hexponent]
    obtain ⟨zeros, hzeros⟩ := Int.eq_ofNat_of_zero_le hexponent
    refine ⟨hdigits.append (allDigits_zeros _), by simp [hne], by simp [AllDigits], ?_⟩
    rw [List.append_nil, digitsValue_append_zeros, hcoefficient, absValue, hzeros,
      Int.toNat_natCast, zpow_natCast, Nat.cast_mul, Nat.cast_pow]
    simp
  rw [if_neg hexponent]
  obtain ⟨places, hplaces⟩ := Int.eq_ofNat_of_zero_le (show 0 ≤ -d.exponent by omega)
  have hvalue : d.absValue = (d.coefficient : ℚ) * 10 ^ (-(places : Int)) := by
    rw [absValue, ← hplaces, neg_neg]
  simp only [hplaces, Int.toNat_natCast]
  by_cases hinside : places < digits.length
  · rw [if_pos hinside]
    have hlength : (digits.drop (digits.length - places)).length = places := by
      rw [List.length_drop]
      omega
    have hall := List.take_append_drop (digits.length - places) digits
    refine ⟨fun c hc => hdigits c (List.mem_of_mem_take hc), ?_,
      fun c hc => hdigits c (List.mem_of_mem_drop hc), ?_⟩
    · rw [ne_eq, List.take_eq_nil_iff, not_or]
      exact ⟨by omega, hne⟩
    · rw [hall, hlength, hcoefficient, hvalue]
  · rw [if_neg hinside]
    have hlength : (List.replicate (places - digits.length) '0' ++ digits).length = places := by
      rw [List.length_append, List.length_replicate]
      omega
    refine ⟨allDigits_zeros 1, by simp, (allDigits_zeros _).append hdigits, ?_⟩
    rw [hlength, ← List.append_assoc, show ['0'] ++ List.replicate (places - digits.length) '0' =
      List.replicate (places - digits.length + 1) '0' from rfl, digitsValue_zeros_append,
      hcoefficient, hvalue]

theorem exists_isSpelledBy_positional (d : Decimal) :
    ∃ n, d.IsSpelledBy
      (match d.positional with
        | (whole, []) => whole ++ ['.', '0']
        | (whole, fraction) => whole ++ '.' :: fraction) n := by
  obtain ⟨hwhole, hne, hfraction, hvalue⟩ := d.positional_spec
  generalize d.positional = parts at hwhole hne hfraction hvalue ⊢
  obtain ⟨whole, fraction⟩ := parts
  cases fraction with
  | nil =>
    refine ⟨_, isSpelledBy_pointed hwhole hne (allDigits_zeros 1) ?_⟩
    have hzero : digitsValue (whole ++ ['0']) = digitsValue whole * 10 ^ 1 :=
      digitsValue_append_zeros whole 1
    rw [hzero, ← hvalue]
    simp
  | cons first others => exact ⟨_, isSpelledBy_pointed hwhole hne hfraction hvalue⟩

def literalExponent (d : Decimal) : PathData.Exponent :=
  ⟨'e', signText (decide (d.leadingExponent < 0)), digitsOf d.leadingExponent.natAbs⟩

theorem isLiteral_literalExponent (d : Decimal) : d.literalExponent.IsLiteral :=
  ⟨rfl, signText_cases _, allDigits_digitsOf _, digitsOf_ne_nil _⟩

theorem value_literalExponent (d : Decimal) : d.literalExponent.value = d.leadingExponent := by
  simp only [PathData.Exponent.value, literalExponent, digitsValue_digitsOf, signText]
  by_cases hneg : d.leadingExponent < 0
  · simp only [hneg, decide_true, if_true]
    omega
  · simp only [hneg, decide_false, Bool.false_eq_true, if_false, reduceCtorEq]
    omega

/-- A numeral with an exponent that has the digits of a decimal, one of them before the point. -/
theorem isSpelledBy_exponential {d : Decimal} {digit : Char} (fraction : Option (List Char))
    (hdigits : AllDigits (digit :: fraction.getD []))
    (hcoefficient : digitsValue (digit :: fraction.getD []) = d.coefficient)
    (hexponent : d.leadingExponent = d.exponent + (fraction.getD []).length) :
    d.IsSpelledBy (digit :: (PathData.fractionText fraction ++ d.literalExponent.text))
      ⟨signText d.negative, [digit], fraction, some d.literalExponent⟩ := by
  constructor
  case literal =>
    refine ⟨signText_cases _, ?_, by simp, ?_, ?_, .inr (by simp)⟩
    · intro c hc
      exact hdigits c (List.mem_cons.mpr (.inl (List.mem_singleton.mp hc)))
    · rintro digits rfl c hc
      exact hdigits c (List.mem_cons_of_mem digit hc)
    · rintro _ ⟨⟩
      exact d.isLiteral_literalExponent
  case text_eq => simp [Numeral.text, PathData.exponentText]
  case negative_eq => exact decide_signText _
  case absValue_eq =>
    simp only [absValue, Numeral.toDecimal, List.singleton_append, hcoefficient,
      value_literalExponent, hexponent, add_sub_cancel_right]

theorem exists_isSpelledBy_exponential (d : Decimal) : ∃ n, d.IsSpelledBy d.exponential n := by
  have hdigits := allDigits_digitsOf d.coefficient
  have hne := digitsOf_ne_nil d.coefficient
  have hcoefficient := digitsValue_digitsOf d.coefficient
  have hleading : d.leadingExponent = d.exponent + (digitsOf d.coefficient).length - 1 := rfl
  have hexponent : 'e' :: ((if d.leadingExponent < 0 then ['-'] else []) ++
      digitsOf d.leadingExponent.natAbs) = d.literalExponent.text := by
    simp [literalExponent, PathData.Exponent.text, signText]
  rw [exponential]
  simp only [hexponent]
  generalize digitsOf d.coefficient = digits at hdigits hne hcoefficient hleading ⊢
  cases digits with
  | nil => exact absurd rfl hne
  | cons digit others =>
    have hlength : d.leadingExponent = d.exponent + others.length := by
      simp only [List.length_cons] at hleading
      omega
    cases others with
    | nil => exact ⟨_, isSpelledBy_exponential none hdigits hcoefficient hlength⟩
    | cons next others =>
      exact ⟨_, isSpelledBy_exponential (some (next :: others)) hdigits hcoefficient hlength⟩

theorem exists_isSpelledBy (range : LiteralRange) (d : Decimal) :
    ∃ n, d.IsSpelledBy (d.literal range) n := by
  rw [literal]
  split
  · next hzero => exact ⟨_, isSpelledBy_zero hzero⟩
  · split
    · exact d.exists_isSpelledBy_positional
    · exact d.exists_isSpelledBy_exponential

end Decimal

/-! ### Texts of numbers -/

namespace Binary

variable {f : BinaryFormat} {x y : Binary f}

theorem text_of_isFinite (h : x.IsFinite) :
    x.text.toList = signText x.negative ++ x.shortest.literal literalRange := by
  have hnumber : ¬ x.IsNaN := Nat.lt_asymm h
  rw [text, textWith, if_neg hnumber, if_pos h, String.toList_ofList, signText]
  split
  · rfl
  · rfl

/-- The text of a finite value is taken as one numeral and read as the value. -/
theorem scan_text (h : x.IsFinite) {rest : List Char} (hrest : EndsNumeral rest) :
    ∃ n, Numeral.scan (x.text.toList ++ rest) = some (n, rest) ∧ n.text = x.text.toList ∧
      ofDecimal n.toDecimal = x := by
  obtain ⟨n, hn⟩ := x.shortest.exists_isSpelledBy literalRange
  have htext : n.text = x.text.toList := by
    rw [hn.text_eq, text_of_isFinite h, shortest_negative]
  refine ⟨n, ?_, htext, ?_⟩
  · rw [← htext]
    exact Numeral.scan_literal hn.literal hrest
  · exact ofDecimal_of_absValue_eq h (hn.negative_eq.trans x.shortest_negative) hn.absValue_eq

theorem text_append_inj (hx : x.IsFinite) (hy : y.IsFinite) {rest rest' : List Char}
    (hrest : EndsNumeral rest) (hrest' : EndsNumeral rest')
    (h : x.text.toList ++ rest = y.text.toList ++ rest') : x = y ∧ rest = rest' := by
  obtain ⟨n, hscan, -, hread⟩ := scan_text hx hrest
  obtain ⟨n', hscan', -, hread'⟩ := scan_text hy hrest'
  rw [h, hscan', Option.some.injEq, Prod.mk.injEq] at hscan
  obtain ⟨rfl, rfl⟩ := hscan
  exact ⟨hread.symm.trans hread', rfl⟩

theorem exists_text_eq_cons (h : x.IsFinite) :
    ∃ c rest, x.text.toList = c :: rest ∧ (c.isDigit = true ∨ c = '-') := by
  obtain ⟨n, hn⟩ := x.shortest.exists_isSpelledBy literalRange
  obtain ⟨digit, others, hwhole⟩ := List.exists_cons_of_ne_nil hn.literal.whole_ne
  have htext : x.text.toList = n.text := by
    rw [hn.text_eq, text_of_isFinite h, shortest_negative]
  rw [htext, Numeral.text]
  rcases hn.literal.sign with hsign | hsign
  · refine ⟨digit, _, by rw [hsign, hwhole]; rfl, .inl ?_⟩
    exact hn.literal.whole digit (hwhole ▸ List.mem_cons_self)
  · exact ⟨'-', _, by rw [hsign]; rfl, .inr rfl⟩

end Binary
end IconForge
