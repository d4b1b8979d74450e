import Mathlib.Computability.RegularExpressions
import Mathlib.Data.List.TakeWhile
import Mathlib.Tactic.FinCases
import Mathlib.Tactic.IntervalCases
import IconForge.PathData.Numeral

/-!
# The longest numeral

The texts of numerals are what the regular expression
`[-+]?([0-9]+\.?[0-9]*|\.[0-9]+)([eE][-+]?[0-9]+)?` matches (`mem_numeralPattern_iff`), and such a
text tells the parts of its numeral (`Numeral.IsWellFormed.text_inj`). The scanner takes the longest
one that a text begins with (`Numeral.scan_eq_some_iff`) and finds none only if there is none
(`Numeral.scan_eq_none_iff`), for all its looking ahead and going back. So it takes the same if the
text is cut off after the numeral (`Numeral.scan_of_append`), or if it goes on with a character that
numerals are not made of (`Numeral.scan_append`).
-/

namespace IconForge

/-- A text of decimal digits. -/
def AllDigits (text : List Char) : Prop := ∀ c ∈ text, c.isDigit = true

theorem AllDigits.append {first second : List Char} (hfirst : AllDigits first)
    (hsecond : AllDigits second) : AllDigits (first ++ second) :=
  List.forall_mem_append.mpr ⟨hfirst, hsecond⟩

namespace PathData

/-! ### Numerals in their parts -/

def IsSign (sign : List Char) : Prop := sign = [] ∨ sign = ['+'] ∨ sign = ['-']

structure Exponent.IsWellFormed (e : Exponent) : Prop where
  mark : e.mark = 'e' ∨ e.mark = 'E'
  sign : IsSign e.sign
  digits : AllDigits e.digits
  digits_ne : e.digits ≠ []

/-- The parts are what their names say, and there is a digit before the exponent. -/
structure Numeral.IsWellFormed (n : Numeral) : Prop where
  sign : IsSign n.sign
  whole : AllDigits n.whole
  fraction : ∀ digits, n.fraction = some digits → AllDigits digits
  hasDigit : n.whole ≠ [] ∨ ∃ digits, n.fraction = some digits ∧ digits ≠ []
  exponent : ∀ e, n.exponent = some e → e.IsWellFormed

/-! ### Scanning the parts -/

def NoDigit (text : List Char) : Prop := ∀ c ∈ text.head?, c.isDigit = false

/-- What continues neither digits nor a numeral that has a point. -/
structure EndsNumeral (text : List Char) : Prop where
  noDigit : NoDigit text
  noExponent : ∀ c ∈ text.head?, c ≠ 'e' ∧ c ≠ 'E'

theorem EndsNumeral.nil : EndsNumeral [] := ⟨nofun, nofun⟩

theorem EndsNumeral.cons {c : Char} (rest : List Char)
    (h : c.isDigit = false ∧ c ≠ 'e' ∧ c ≠ 'E') : EndsNumeral (c :: rest) := by
  constructor
  case noDigit =>
    rintro _ ⟨⟩
    exact h.1
  case noExponent =>
    rintro _ ⟨⟩
    exact h.2

theorem splitDigits_append_left {digits : List Char} (hdigits : AllDigits digits)
    (rest : List Char) :
    splitDigits (digits ++ rest) = (digits ++ (splitDigits rest).1, (splitDigits rest).2) := by
  rw [splitDigits, List.takeWhile_append_of_pos hdigits, List.dropWhile_append_of_pos hdigits]
  rfl

theorem splitDigits_of_noDigit {rest : List Char} (hrest : NoDigit rest) :
    splitDigits rest = ([], rest) := by
  cases rest with
  | nil => rfl
  | cons c others =>
    have hc : c.isDigit = false := hrest c rfl
    simp [splitDigits, hc]

theorem splitDigits_eq {digits rest : List Char} (hdigits : AllDigits digits)
    (hrest : NoDigit rest) : splitDigits (digits ++ rest) = (digits, rest) := by
  rw [splitDigits_append_left hdigits, splitDigits_of_noDigit hrest, List.append_nil]

theorem allDigits_splitDigits (text : List Char) : AllDigits (splitDigits text).1 := by
  intro c hc
  exact List.mem_takeWhile_imp hc

theorem length_splitDigits_le (text : List Char) : (splitDigits text).2.length ≤ text.length :=
  (List.dropWhile_suffix _).length_le

theorem splitSign_eq {sign rest : List Char} (hsign : IsSign sign)
    (hrest : ∀ c ∈ rest.head?, c ≠ '+' ∧ c ≠ '-') : splitSign (sign ++ rest) = (sign, rest) := by
  rcases hsign with rfl | rfl | rfl
  · cases rest with
    | nil => rfl
    | cons c others =>
      obtain ⟨hplus, hminus⟩ := hrest c rfl
      simp [splitSign, hplus, hminus]
  · rfl
  · rfl

theorem isSign_splitSign (text : List Char) : IsSign (splitSign text).1 := by
  unfold splitSign
  split
  · exact .inr (.inl rfl)
  · exact .inr (.inr rfl)
  · exact .inl rfl

theorem AllDigits.head {digits rest : List Char} (hdigits : AllDigits digits)
    (hne : digits ≠ []) : ∀ c ∈ (digits ++ rest).head?, c.isDigit = true := by
  obtain ⟨first, others, rfl⟩ := List.exists_cons_of_ne_nil hne
  rintro _ ⟨⟩
  exact hdigits first List.mem_cons_self

theorem ne_sign_of_isDigit {c : Char} (h : c.isDigit = true) : c ≠ '+' ∧ c ≠ '-' := by
  constructor <;> rintro rfl <;> cases h

theorem Exponent.IsWellFormed.head {e : Exponent} (h : e.IsWellFormed) (rest : List Char) :
    NoDigit (e.text ++ rest) ∧ ∀ c ∈ (e.text ++ rest).head?, c ≠ '.' := by
  constructor
  · rintro _ ⟨⟩
    rcases h.mark with hmark | hmark <;> rw [hmark] <;> rfl
  · rintro _ ⟨⟩
    rcases h.mark with hmark | hmark <;> rw [hmark] <;> decide

theorem splitExponent_text_append {e : Exponent} (he : e.IsWellFormed) (rest : List Char) :
    splitExponent (e.text ++ rest) =
      (some ⟨e.mark, e.sign, e.digits ++ (splitDigits rest).1⟩, (splitDigits rest).2) := by
  have hsign : splitSign (e.sign ++ (e.digits ++ rest)) = (e.sign, e.digits ++ rest) :=
    splitSign_eq he.sign fun c hc => ne_sign_of_isDigit (AllDigits.head he.digits he.digits_ne c hc)
  have hdigits := splitDigits_append_left he.digits rest
  rw [Exponent.text, List.cons_append, List.append_assoc, splitExponent]
  simp only [hsign, hdigits]
  rw [if_pos ⟨he.mark, by simp [he.digits_ne]⟩]

theorem splitExponent_of_endsNumeral {rest : List Char} (hrest : EndsNumeral rest) :
    splitExponent rest = (none, rest) := by
  cases rest with
  | nil => rfl
  | cons c others =>
    have hmark := hrest.noExponent c rfl
    simp [splitExponent, hmark]

theorem length_splitExponent_le (text : List Char) :
    (splitExponent text).2.length ≤ text.length := by
  have happend := congrArg List.length (splitExponent_append text)
  rw [List.length_append] at happend
  omega

theorem splitExponent_isWellFormed {text : List Char} {e : Exponent}
    (h : (splitExponent text).1 = some e) : e.IsWellFormed := by
  cases text with
  | nil => cases h
  | cons mark rest =>
    simp only [splitExponent] at h
    split at h
    · next hsome =>
      cases h
      exact ⟨hsome.1, isSign_splitSign rest, allDigits_splitDigits _, hsome.2⟩
    · cases h

section

variable {whole : List Char} {fraction : Option (List Char)}

/-- A whole part and a fraction are taken as they are before what continues neither. -/
theorem splitMantissa_eq (hwhole : AllDigits whole)
    (hfraction : ∀ digits, fraction = some digits → AllDigits digits)
    (hdigit : whole ≠ [] ∨ ∃ digits, fraction = some digits ∧ digits ≠ []) {rest : List Char}
    (hrest : NoDigit rest) (hpoint : fraction = none → ∀ c ∈ rest.head?, c ≠ '.') :
    splitMantissa (whole ++ (fractionText fraction ++ rest)) = some (whole, fraction, rest) := by
  cases fraction with
  | some digits =>
    have hbefore : NoDigit ('.' :: (digits ++ rest)) := by
      rintro _ ⟨⟩
      rfl
    rw [fractionText, List.cons_append, splitMantissa, splitDigits_eq hwhole hbefore]
    simp only [splitDigits_eq (hfraction digits rfl) hrest]
    rw [if_neg]
    rintro ⟨hnil, hnil'⟩
    simp [hnil, hnil'] at hdigit
  | none =>
    have hne : whole ≠ [] := by simpa using hdigit
    rw [fractionText, List.nil_append, splitMantissa, splitDigits_eq hwhole hrest]
    cases rest with
    | nil => simp [hne]
    | cons c others =>
      have hc : c ≠ '.' := hpoint rfl c rfl
      simp [hne, hc]

/-- A mantissa leaves no more than what follows any whole part and fraction. -/
theorem exists_splitMantissa (hwhole : AllDigits whole)
    (hfraction : ∀ digits, fraction = some digits → AllDigits digits)
    (hdigit : whole ≠ [] ∨ ∃ digits, fraction = some digits ∧ digits ≠ []) (rest : List Char) :
    ∃ whole' fraction' after,
      splitMantissa (whole ++ (fractionText fraction ++ rest)) = some (whole', fraction', after) ∧
        after.length ≤ rest.length := by
  have hle := length_splitDigits_le rest
  cases fraction with
  | some digits =>
    have hbefore : NoDigit ('.' :: (digits ++ rest)) := by
      rintro _ ⟨⟩
      rfl
    rw [fractionText, List.cons_append, splitMantissa, splitDigits_eq hwhole hbefore]
    simp only [splitDigits_append_left (hfraction digits rfl)]
    rw [if_neg]
    · exact ⟨_, _, _, rfl, hle⟩
    · rintro ⟨hnil, hnil'⟩
      simp [hnil, (List.append_eq_nil_iff.mp hnil').1] at hdigit
  | none =>
    have hne : whole ≠ [] := by simpa using hdigit
    rw [fractionText, List.nil_append, splitMantissa, splitDigits_append_left hwhole]
    split
    · next afterPoint hpoint =>
      have hafter := length_splitDigits_le afterPoint
      have hlonger := congrArg List.length hpoint
      simp only [List.length_cons] at hlonger
      simp only [List.append_eq_nil_iff, hne, false_and, if_false]
      exact ⟨_, _, _, rfl, by omega⟩
    · simp only [List.append_eq_nil_iff, hne, false_and, if_false]
      exact ⟨_, _, _, rfl, hle⟩

end

theorem splitMantissa_isWellFormed {text whole after : List Char} {fraction : Option (List Char)}
    (h : splitMantissa text = some (whole, fraction, after)) :
    AllDigits whole ∧ (∀ digits, fraction = some digits → AllDigits digits) ∧
      (whole ≠ [] ∨ ∃ digits, fraction = some digits ∧ digits ≠ []) := by
  simp only [splitMantissa] at h
  split at h
  · next afterPoint hpoint =>
    split at h
    · cases h
    · next hdigit =>
      cases h
      refine ⟨allDigits_splitDigits text, ?_, ?_⟩
      · rintro _ ⟨⟩
        exact allDigits_splitDigits afterPoint
      · rw [not_and_or] at hdigit
        exact hdigit.imp id fun hne => ⟨_, rfl, hne⟩
  · split at h
    · cases h
    · next hne =>
      cases h
      exact ⟨allDigits_splitDigits text, by simp, .inl hne⟩

namespace Numeral

variable {n m : Numeral} {text rest : List Char}

theorem isWellFormed_of_scan (h : scan text = some (n, rest)) : n.IsWellFormed := by
  simp only [scan] at h
  split at h
  · cases h
  · next whole fraction afterMantissa hmantissa =>
    cases h
    obtain ⟨hwhole, hfraction, hdigit⟩ := splitMantissa_isWellFormed hmantissa
    exact ⟨isSign_splitSign text, hwhole, hfraction, hdigit,
      fun e he => splitExponent_isWellFormed he⟩

namespace IsWellFormed

theorem splitSign_eq (h : n.IsWellFormed) (rest : List Char) :
    splitSign (n.text ++ rest) =
      (n.sign, n.whole ++ (fractionText n.fraction ++ (exponentText n.exponent ++ rest))) := by
  rw [text, List.append_assoc, List.append_assoc, List.append_assoc]
  refine PathData.splitSign_eq h.sign fun c hc => ?_
  by_cases hne : n.whole = []
  · obtain ⟨digits, hfraction, -⟩ := h.hasDigit.resolve_left (fun hwhole => hwhole hne)
    simp only [hne, hfraction, fractionText, List.nil_append, List.cons_append, List.head?_cons,
      Option.mem_some_iff] at hc
    subst hc
    decide
  · exact ne_sign_of_isDigit (AllDigits.head h.whole hne c hc)

end IsWellFormed

theorem IsWellFormed.text_ne_nil (h : n.IsWellFormed) : n.text ≠ [] := by
  rcases h.hasDigit with hwhole | ⟨digits, hfraction, -⟩
  · simp [text, hwhole]
  · simp [text, hfraction, fractionText]

/-- A text that begins with a numeral has one scanned that is as long at least. -/
theorem exists_scan (h : n.IsWellFormed) (rest : List Char) :
    ∃ m after, scan (n.text ++ rest) = some (m, after) ∧ after.length ≤ rest.length := by
  rw [scan, h.splitSign_eq]
  dsimp only
  cases hexponent : n.exponent with
  | none =>
    obtain ⟨whole, fraction, after, hmantissa, hle⟩ :=
      exists_splitMantissa h.whole h.fraction h.hasDigit rest
    rw [exponentText, List.nil_append, hmantissa]
    exact ⟨_, _, rfl, (length_splitExponent_le after).trans hle⟩
  | some e =>
    have he := h.exponent e hexponent
    obtain ⟨hdigit, hpoint⟩ := he.head rest
    rw [exponentText, splitMantissa_eq h.whole h.fraction h.hasDigit hdigit fun _ => hpoint]
    simp only [splitExponent_text_append he]
    exact ⟨_, _, rfl, length_splitDigits_le rest⟩

theorem scan_text (h : n.IsWellFormed) (hrest : EndsNumeral rest)
    (hpoint : n.fraction = none → n.exponent = none → ∀ c ∈ rest.head?, c ≠ '.') :
    scan (n.text ++ rest) = some (n, rest) := by
  rw [scan, h.splitSign_eq]
  dsimp only
  obtain ⟨sign, whole, fraction, exponent⟩ := n
  cases exponent with
  | none =>
    rw [exponentText, List.nil_append, splitMantissa_eq h.whole h.fraction h.hasDigit hrest.noDigit
      fun hnone => hpoint hnone rfl]
    simp only [splitExponent_of_endsNumeral hrest]
  | some e =>
    have he := h.exponent e rfl
    obtain ⟨hdigit, hmark⟩ := he.head rest
    rw [exponentText, splitMantissa_eq h.whole h.fraction h.hasDigit hdigit fun _ => hmark]
    simp only [splitExponent_text_append he, splitDigits_of_noDigit hrest.noDigit, List.append_nil]

/-! ### The longest numeral -/

theorem IsWellFormed.text_inj (hn : n.IsWellFormed) (hm : m.IsWellFormed) (h : n.text = m.text) :
    n = m := by
  have hscan := scan_text hn .nil nofun
  rw [h, scan_text hm .nil nofun] at hscan
  exact (congrArg Prod.fst (Option.some.inj hscan)).symm

/-- The scanner takes the longest numeral at the front of a text. -/
theorem scan_eq_some_iff : scan text = some (n, rest) ↔
    n.IsWellFormed ∧ n.text ++ rest = text ∧
      ∀ m : Numeral, m.IsWellFormed → m.text <+: text → m.text.length ≤ n.text.length := by
  have hlongest {n : Numeral} {rest : List Char} (h : scan text = some (n, rest)) (m : Numeral)
      (hm : m.IsWellFormed) (hfront : m.text <+: text) : m.text.length ≤ n.text.length := by
    obtain ⟨others, rfl⟩ := hfront
    obtain ⟨k, after, hscan, hle⟩ := exists_scan hm others
    rw [h, Option.some.injEq, Prod.mk.injEq] at hscan
    obtain ⟨rfl, rfl⟩ := hscan
    have hsum := congrArg List.length (text_append_of_scan h)
    rw [List.length_append, List.length_append] at hsum
    omega
  constructor
  · intro h
    exact ⟨isWellFormed_of_scan h, text_append_of_scan h, hlongest h⟩
  · rintro ⟨hn, rfl, hmost⟩
    obtain ⟨k, after, hscan, -⟩ := exists_scan hn rest
    have hk := isWellFormed_of_scan hscan
    have happend := text_append_of_scan hscan
    have hlength : k.text.length = n.text.length :=
      Nat.le_antisymm (hmost k hk ⟨after, happend⟩)
        (hlongest hscan n hn (List.prefix_append n.text rest))
    obtain ⟨htext, rfl⟩ := List.append_inj happend hlength
    rw [hscan, hk.text_inj hn htext]

theorem scan_eq_none_iff :
    scan text = none ↔ ∀ m : Numeral, m.IsWellFormed → ¬ m.text <+: text := by
  constructor
  · rintro h m hm ⟨others, rfl⟩
    obtain ⟨k, after, hscan, -⟩ := exists_scan hm others
    rw [h] at hscan
    cases hscan
  · intro h
    cases hscan : scan text with
    | none => rfl
    | some scanned =>
      obtain ⟨n, rest⟩ := scanned
      exact absurd ⟨rest, text_append_of_scan hscan⟩ (h n (isWellFormed_of_scan hscan))

theorem scan_of_append {after : List Char}
    (h : scan (text ++ after) = some (n, rest ++ after)) : scan text = some (n, rest) := by
  obtain ⟨hn, happend, hmost⟩ := scan_eq_some_iff.mp h
  rw [← List.append_assoc] at happend
  exact scan_eq_some_iff.mpr ⟨hn, List.append_cancel_right happend,
    fun m hm hfront => hmost m hm (hfront.trans (List.prefix_append text after))⟩

theorem scan_eq_none_of_append {after : List Char} (h : scan (text ++ after) = none) :
    scan text = none := by
  rw [scan_eq_none_iff] at h ⊢
  exact fun m hm hfront => h m hm (hfront.trans (List.prefix_append text after))

def IsNumeralChar (c : Char) : Prop := c.isDigit = true ∨ c ∈ ['+', '-', '.', 'e', 'E']

instance (c : Char) : Decidable (IsNumeralChar c) :=
  inferInstanceAs (Decidable (_ ∨ _))

theorem IsWellFormed.isNumeralChar (h : n.IsWellFormed) : ∀ c ∈ n.text, IsNumeralChar c := by
  have hsign {sign : List Char} (hsign : IsSign sign) : ∀ c ∈ sign, IsNumeralChar c := by
    rcases hsign with rfl | rfl | rfl <;> simp [IsNumeralChar]
  have hdigits {digits : List Char} (hdigits : AllDigits digits) : ∀ c ∈ digits, IsNumeralChar c :=
    fun c hc => .inl (hdigits c hc)
  intro c hc
  simp only [text, List.mem_append] at hc
  rcases hc with ((hc | hc) | hc) | hc
  · exact hsign h.sign c hc
  · exact hdigits h.whole c hc
  · cases hfraction : n.fraction with
    | none => simp [hfraction, fractionText] at hc
    | some digits =>
      rw [hfraction, fractionText] at hc
      rcases List.mem_cons.mp hc with rfl | hc
      · exact .inr (by decide)
      · exact hdigits (h.fraction digits hfraction) c hc
  · cases hexponent : n.exponent with
    | none => simp [hexponent, exponentText] at hc
    | some e =>
      have he := h.exponent e hexponent
      rw [hexponent, exponentText, Exponent.text] at hc
      rcases List.mem_cons.mp hc with rfl | hc
      · rcases he.mark with hmark | hmark <;> rw [hmark] <;> exact .inr (by decide)
      · rcases List.mem_append.mp hc with hc | hc
        · exact hsign he.sign c hc
        · exact hdigits he.digits c hc

/-- A text that goes on with no character of numerals is scanned as if it ended. -/
theorem scan_append {after : List Char} (hafter : ∀ c ∈ after.head?, ¬ IsNumeralChar c) :
    scan (text ++ after) = (scan text).map fun scanned => (scanned.1, scanned.2 ++ after) := by
  have hwithin (m : Numeral) (hm : m.IsWellFormed) (hfront : m.text <+: text ++ after) :
      m.text <+: text := by
    rcases List.prefix_or_prefix_of_prefix hfront (List.prefix_append text after) with h | h
    · exact h
    · obtain ⟨more, hmore⟩ := h
      rw [← hmore, List.prefix_append_right_inj] at hfront
      cases more with
      | nil => rw [← hmore, List.append_nil]
      | cons c others =>
        obtain ⟨rest, rfl⟩ := hfront
        exact absurd (hm.isNumeralChar c (by simp [← hmore])) (hafter c rfl)
  cases hscan : scan text with
  | none =>
    rw [scan_eq_none_iff] at hscan
    exact scan_eq_none_iff.mpr fun m hm hfront => hscan m hm (hwithin m hm hfront)
  | some scanned =>
    obtain ⟨n, rest⟩ := scanned
    obtain ⟨hn, happend, hmost⟩ := scan_eq_some_iff.mp hscan
    refine scan_eq_some_iff.mpr ⟨hn, ?_, fun m hm hfront => hmost m hm (hwithin m hm hfront)⟩
    rw [← List.append_assoc, happend]

end Numeral

/-! ### The regular expression -/

namespace Pattern

def oneOf (characters : List Char) : RegularExpression Char := (characters.map .char).sum

def optional (pattern : RegularExpression Char) : RegularExpression Char := 1 + pattern

def digit : RegularExpression Char := oneOf "0123456789".toList

def someDigits : RegularExpression Char := digit * digit.star

def sign : RegularExpression Char := optional (oneOf ['-', '+'])

def mantissa : RegularExpression Char :=
  someDigits * optional (.char '.') * digit.star + .char '.' * someDigits

def exponent : RegularExpression Char := optional (oneOf ['e', 'E'] * sign * someDigits)

/-- The pattern `[-+]?([0-9]+\.?[0-9]*|\.[0-9]+)([eE][-+]?[0-9]+)?`. -/
def numeral : RegularExpression Char := sign * mantissa * exponent

variable {text : List Char}

theorem mem_char_iff (c : Char) : text ∈ (RegularExpression.char c).matches' ↔ text = [c] :=
  Iff.rfl

theorem mem_oneOf_iff (characters : List Char) :
    text ∈ (oneOf characters).matches' ↔ ∃ c ∈ characters, text = [c] := by
  induction characters with
  | nil => simp [oneOf, Language.notMem_zero]
  | cons c others ih =>
    rw [oneOf, List.map_cons, List.sum_cons, RegularExpression.matches'_add, Language.mem_add,
      mem_char_iff, List.exists_mem_cons_iff]
    exact or_congr_right ih

theorem mem_optional_iff (pattern : RegularExpression Char) :
    text ∈ (optional pattern).matches' ↔ text = [] ∨ text ∈ pattern.matches' := by
  rw [optional, RegularExpression.matches'_add, Language.mem_add,
    RegularExpression.matches'_epsilon, Language.mem_one]

theorem isDigit_iff (c : Char) : c.isDigit = true ↔ c ∈ "0123456789".toList := by
  constructor
  · intro h
    have hvalue : 48 ≤ c.toNat ∧ c.toNat ≤ 57 := by
      simpa [Char.isDigit, UInt32.le_iff_toNat_le] using h
    obtain ⟨hlow, hhigh⟩ := hvalue
    rw [← Char.ofNat_toNat c]
    interval_cases c.toNat <;> decide
  · intro h
    fin_cases h <;> rfl

theorem mem_digits_iff : text ∈ digit.star.matches' ↔ AllDigits text := by
  rw [RegularExpression.matches'_star, Language.mem_kstar]
  constructor
  · rintro ⟨parts, rfl, hparts⟩ c hc
    obtain ⟨part, hpart, hc⟩ := List.mem_flatten.mp hc
    obtain ⟨d, hd, rfl⟩ := (mem_oneOf_iff _).mp (hparts part hpart)
    rw [List.mem_singleton.mp hc]
    exact (isDigit_iff d).mpr hd
  · intro h
    refine ⟨text.map ([·]), ?_, fun part hpart => ?_⟩
    · rw [← List.flatMap_def, List.flatMap_singleton']
    · obtain ⟨d, hd, rfl⟩ := List.mem_map.mp hpart
      exact (mem_oneOf_iff _).mpr ⟨d, (isDigit_iff d).mp (h d hd), rfl⟩

theorem mem_someDigits_iff : text ∈ someDigits.matches' ↔ AllDigits text ∧ text ≠ [] := by
  rw [someDigits, RegularExpression.matches'_mul, Language.mem_mul]
  constructor
  · rintro ⟨first, hfirst, rest, hrest, rfl⟩
    obtain ⟨d, hd, rfl⟩ := (mem_oneOf_iff _).mp hfirst
    refine ⟨AllDigits.append ?_ (mem_digits_iff.mp hrest), by simp⟩
    intro c hc
    rw [List.mem_singleton.mp hc]
    exact (isDigit_iff d).mpr hd
  · rintro ⟨hdigits, hne⟩
    obtain ⟨d, others, rfl⟩ := List.exists_cons_of_ne_nil hne
    obtain ⟨hd, hothers⟩ := List.forall_mem_cons.mp hdigits
    exact ⟨[d], (mem_oneOf_iff _).mpr ⟨d, (isDigit_iff d).mp hd, rfl⟩, others,
      mem_digits_iff.mpr hothers, rfl⟩

theorem mem_sign_iff : text ∈ sign.matches' ↔ IsSign text := by
  rw [sign, mem_optional_iff, mem_oneOf_iff]
  simp [IsSign, or_comm]

theorem mem_exponent_iff : text ∈ exponent.matches' ↔
    ∃ e? : Option Exponent, (∀ e, e? = some e → e.IsWellFormed) ∧ exponentText e? = text := by
  rw [exponent, mem_optional_iff, RegularExpression.matches'_mul, RegularExpression.matches'_mul]
  constructor
  · rintro (rfl | hsome)
    · exact ⟨none, by simp, rfl⟩
    · obtain ⟨marked, hmarked, digits, hdigits, rfl⟩ := Language.mem_mul.mp hsome
      obtain ⟨first, hfirst, sign, hsign, rfl⟩ := Language.mem_mul.mp hmarked
      obtain ⟨mark, hmark, rfl⟩ := (mem_oneOf_iff _).mp hfirst
      obtain ⟨hdigits, hne⟩ := mem_someDigits_iff.mp hdigits
      refine ⟨some ⟨mark, sign, digits⟩, ?_, by simp [exponentText, Exponent.text]⟩
      rintro _ ⟨⟩
      exact ⟨by simpa using hmark, mem_sign_iff.mp hsign, hdigits, hne⟩
  · rintro ⟨e?, he, rfl⟩
    cases e? with
    | none => exact .inl rfl
    | some e =>
      have he := he e rfl
      refine .inr (Language.mem_mul.mpr ⟨e.mark :: e.sign, ?_, e.digits, ?_, ?_⟩)
      · exact Language.mem_mul.mpr
          ⟨[e.mark], (mem_oneOf_iff _).mpr ⟨_, by simpa using he.mark, rfl⟩,
            e.sign, mem_sign_iff.mpr he.sign, rfl⟩
      · exact mem_someDigits_iff.mpr ⟨he.digits, he.digits_ne⟩
      · simp [exponentText, Exponent.text]

theorem mem_mantissa_iff : text ∈ mantissa.matches' ↔
    ∃ whole fraction, AllDigits whole ∧ (∀ digits, fraction = some digits → AllDigits digits) ∧
      (whole ≠ [] ∨ ∃ digits, fraction = some digits ∧ digits ≠ []) ∧
        whole ++ fractionText fraction = text := by
  rw [mantissa, RegularExpression.matches'_add, Language.mem_add, RegularExpression.matches'_mul,
    RegularExpression.matches'_mul, RegularExpression.matches'_mul]
  constructor
  · rintro (hleft | hright)
    · obtain ⟨pointed, hpointed, digits, hsecond, rfl⟩ := Language.mem_mul.mp hleft
      obtain ⟨whole, hfirst, point, hpoint, rfl⟩ := Language.mem_mul.mp hpointed
      obtain ⟨hwhole, hne⟩ := mem_someDigits_iff.mp hfirst
      have hdigits := mem_digits_iff.mp hsecond
      rcases (mem_optional_iff _).mp hpoint with rfl | hpoint
      · exact ⟨whole ++ digits, none, hwhole.append hdigits, by simp, .inl (by simp [hne]),
          by simp [fractionText]⟩
      · rw [(mem_char_iff _).mp hpoint]
        refine ⟨whole, some digits, hwhole, ?_, .inl hne, by simp [fractionText]⟩
        rintro _ ⟨⟩
        exact hdigits
    · obtain ⟨point, hpoint, digits, hsecond, rfl⟩ := Language.mem_mul.mp hright
      obtain ⟨hdigits, hne⟩ := mem_someDigits_iff.mp hsecond
      rw [(mem_char_iff _).mp hpoint]
      refine ⟨[], some digits, by simp [AllDigits], ?_, .inr ⟨digits, rfl, hne⟩, rfl⟩
      rintro _ ⟨⟩
      exact hdigits
  · rintro ⟨whole, fraction, hwhole, hfraction, hdigit, rfl⟩
    by_cases hne : whole = []
    · obtain ⟨digits, rfl, hdigits⟩ := hdigit.resolve_left (fun h => h hne)
      refine .inr (Language.mem_mul.mpr ⟨['.'], rfl, digits, ?_, by simp [hne, fractionText]⟩)
      exact mem_someDigits_iff.mpr ⟨hfraction digits rfl, hdigits⟩
    · have hwhole := mem_someDigits_iff.mpr ⟨hwhole, hne⟩
      left
      cases fraction with
      | none =>
        exact Language.mem_mul.mpr ⟨whole, Language.mem_mul.mpr ⟨whole, hwhole, [],
          (mem_optional_iff _).mpr (.inl rfl), by simp⟩, [],
          mem_digits_iff.mpr (by simp [AllDigits]), by simp [fractionText]⟩
      | some digits =>
        exact Language.mem_mul.mpr ⟨whole ++ ['.'], Language.mem_mul.mpr ⟨whole, hwhole, ['.'],
          (mem_optional_iff _).mpr (.inr rfl), rfl⟩, digits, mem_digits_iff.mpr (hfraction _ rfl),
          by simp [fractionText]⟩

end Pattern

theorem mem_numeralPattern_iff {text : List Char} :
    text ∈ Pattern.numeral.matches' ↔ ∃ n : Numeral, n.IsWellFormed ∧ n.text = text := by
  rw [Pattern.numeral, RegularExpression.matches'_mul, RegularExpression.matches'_mul]
  constructor
  · intro h
    obtain ⟨unscaled, hunscaled, scale, hscale, rfl⟩ := Language.mem_mul.mp h
    obtain ⟨sign, hsign, mantissa, hmantissa, rfl⟩ := Language.mem_mul.mp hunscaled
    obtain ⟨whole, fraction, hwhole, hfraction, hdigit, rfl⟩ :=
      Pattern.mem_mantissa_iff.mp hmantissa
    obtain ⟨exponent, hexponent, rfl⟩ := Pattern.mem_exponent_iff.mp hscale
    refine ⟨⟨sign, whole, fraction, exponent⟩, ?_, by simp [Numeral.text]⟩
    exact ⟨Pattern.mem_sign_iff.mp hsign, hwhole, hfraction, hdigit, hexponent⟩
  · rintro ⟨n, hn, rfl⟩
    refine Language.mem_mul.mpr ⟨n.sign ++ (n.whole ++ fractionText n.fraction), ?_,
      exponentText n.exponent, Pattern.mem_exponent_iff.mpr ⟨n.exponent, hn.exponent, rfl⟩,
      by simp [Numeral.text]⟩
    exact Language.mem_mul.mpr ⟨n.sign, Pattern.mem_sign_iff.mpr hn.sign, _,
      Pattern.mem_mantissa_iff.mpr
        ⟨n.whole, n.fraction, hn.whole, hn.fraction, hn.hasDigit, rfl⟩, rfl⟩

end PathData
end IconForge
