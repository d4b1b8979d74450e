import IconForge.Color
import Mathlib

/-!
# Normal forms of colours

However a colour is marked, whatever the case of its digits and whatever white space stands around
it, its normal form is that of its digits (`Spells.normalize_eq`). The normal form of a hexadecimal
colour has six or eight digits in upper case, and such a text is its own normal form: no mark and no
white space can be taken away from it (`IsNormal.normalize_eq`). Of other texts this need not be
so, as only one mark is taken away at a time.
-/

namespace IconForge

/-! ### Trimmed texts -/

namespace Text

def IsTrimmed (text : List Char) : Prop :=
  (∀ c ∈ text.head?, isBlank c = false) ∧ ∀ c ∈ text.getLast?, isBlank c = false

theorem dropWhile_isBlank {text : List Char} (h : ∀ c ∈ text.head?, isBlank c = false) :
    text.dropWhile isBlank = text := by
  cases text with
  | nil => rfl
  | cons c others => rw [List.dropWhile_cons_of_neg (by simp [h c rfl])]

theorem trim_append {leading text trailing : List Char} (hleading : ∀ c ∈ leading, isBlank c = true)
    (htrailing : ∀ c ∈ trailing, isBlank c = true) (h : IsTrimmed text) :
    trim (leading ++ text ++ trailing) = text := by
  have hend : (trailing.reverse ++ text.reverse).dropWhile isBlank = text.reverse := by
    rw [List.dropWhile_append_of_pos (by simpa using htrailing)]
    exact dropWhile_isBlank (by simpa using h.2)
  have hstart : (text ++ trailing).dropWhile isBlank = text ++ trailing ∨
      (text ++ trailing).dropWhile isBlank = [] ∧ text = [] := by
    cases text with
    | nil => exact .inr ⟨List.dropWhile_eq_nil_iff.mpr htrailing, rfl⟩
    | cons c others => exact .inl (dropWhile_isBlank h.1)
  rw [trim, List.append_assoc, List.dropWhile_append_of_pos hleading]
  rcases hstart with hstart | ⟨hstart, rfl⟩
  · rw [hstart, List.reverse_append, hend, List.reverse_reverse]
  · rw [hstart]
    rfl

end Text

/-! ### Digits -/

theorem not_lower_toUpper (c : Char) : ¬ ('a' ≤ c.toUpper ∧ c.toUpper ≤ 'z') := by
  rintro ⟨hlow, hhigh⟩
  have hlower : c.toUpper.isLower = true :=
    Bool.and_eq_true_iff.mpr ⟨decide_eq_true hlow, decide_eq_true hhigh⟩
  rw [Char.isLower_toUpper_eq_false] at hlower
  cases hlower

theorem toNat_of_isLower {c : Char} (h : c.isLower) : 97 ≤ c.toNat ∧ c.toNat ≤ 122 := by
  simpa [Char.isLower, UInt32.le_iff_toNat_le] using h

namespace Color

/-- Six or eight hexadecimal digits in upper case. -/
structure IsNormal (color : String) : Prop where
  length_eq : color.length = 6 ∨ color.length = 8
  upper : ∀ c ∈ color.toList, ('0' ≤ c ∧ c ≤ '9') ∨ ('A' ≤ c ∧ c ≤ 'F')

instance (color : String) : Decidable (IsNormal color) :=
  decidable_of_iff ((color.length = 6 ∨ color.length = 8) ∧
    ∀ c ∈ color.toList, ('0' ≤ c ∧ c ≤ '9') ∨ ('A' ≤ c ∧ c ≤ 'F'))
    ⟨fun ⟨hlength, hupper⟩ => ⟨hlength, hupper⟩, fun h => ⟨h.length_eq, h.upper⟩⟩

theorem toNat_of_upper {c : Char} (h : ('0' ≤ c ∧ c ≤ '9') ∨ ('A' ≤ c ∧ c ≤ 'F')) :
    (48 ≤ c.toNat ∧ c.toNat ≤ 57) ∨ (65 ≤ c.toNat ∧ c.toNat ≤ 70) := by
  simp only [Char.le_def, UInt32.le_iff_toNat_le] at h
  exact h

theorem toUpper_of_upper {c : Char} (h : ('0' ≤ c ∧ c ≤ '9') ∨ ('A' ≤ c ∧ c ≤ 'F')) :
    c.toUpper = c := by
  refine Char.toUpper_eq_of_not_isLower fun hlower => ?_
  have hcode := toNat_of_upper h
  have hcode' := toNat_of_isLower hlower
  omega

theorem isBlank_of_toNat {c : Char} (h : 48 ≤ c.toNat ∧ c.toNat ≤ 122) :
    Text.isBlank c = false := by
  rw [Text.isBlank, Text.CodePointRanges.contains, List.any_eq_false]
  intro range hrange
  have hrange' : range.2 < 48 ∨ 122 < range.1 := by
    revert range
    decide
  simp only [Bool.and_eq_true, decide_eq_true_eq]
  omega

theorem isBlank_of_upper {c : Char} (h : ('0' ≤ c ∧ c ≤ '9') ∨ ('A' ≤ c ∧ c ≤ 'F')) :
    Text.isBlank c = false := by
  have hcode := toNat_of_upper h
  exact isBlank_of_toNat (by omega)

theorem isHexDigit_of_upper {c : Char} (h : ('0' ≤ c ∧ c ≤ '9') ∨ ('A' ≤ c ∧ c ≤ 'F')) :
    Text.isHexDigit c = true := by
  simp only [Text.isHexDigit, Bool.or_eq_true, Bool.and_eq_true, decide_eq_true_eq]
  tauto

theorem upper_of_mem_normalize {color : String} {c : Char} (hc : c ∈ (normalize color).toList)
    (h : Text.isHexDigit c = true) : ('0' ≤ c ∧ c ≤ '9') ∨ ('A' ≤ c ∧ c ≤ 'F') := by
  rw [normalize, String.toList_ofList] at hc
  obtain ⟨written, -, rfl⟩ := List.mem_map.mp hc
  simp only [Text.isHexDigit, Bool.or_eq_true, Bool.and_eq_true, decide_eq_true_eq] at h
  rcases h with (hdigit | ⟨hlow, hhigh⟩) | hupper
  · exact .inl hdigit
  · exact absurd ⟨hlow, hhigh.trans (by decide)⟩ (not_lower_toUpper written)
  · exact .inr hupper

/-- A colour is hexadecimal if its normal form consists of upper-case digits. -/
theorem isHex_iff {color : String} : isHex color = true ↔ IsNormal (normalize color) := by
  simp only [isHex, Bool.and_eq_true, Bool.or_eq_true, decide_eq_true_eq, String.length_toList,
    List.all_eq_true]
  constructor
  · rintro ⟨hlength, hdigits⟩
    exact ⟨hlength, fun c hc => upper_of_mem_normalize hc (hdigits c hc)⟩
  · intro h
    exact ⟨h.length_eq, fun c hc => isHexDigit_of_upper (h.upper c hc)⟩

/-! ### Letters in either case -/

theorem isBlank_toUpper (c : Char) : Text.isBlank c.toUpper = Text.isBlank c := by
  by_cases h : c.isLower
  · have hcode := toNat_of_isLower h
    have hupper : c.toUpper.toNat = c.toNat - 32 := by
      have hvalid : (c.toNat - 32).isValidChar := by
        unfold Nat.isValidChar
        omega
      rw [Char.toUpper_eq_of_isLower h, Char.toNat_ofNat, if_pos hvalid]
    rw [isBlank_of_toNat (by omega), isBlank_of_toNat (by omega)]
  · rw [Char.toUpper_eq_of_not_isLower h]

theorem trim_map_toUpper (text : List Char) :
    Text.trim (text.map Char.toUpper) = (Text.trim text).map Char.toUpper := by
  have hblank : Text.isBlank ∘ Char.toUpper = Text.isBlank := funext isBlank_toUpper
  simp only [Text.trim, List.dropWhile_map, ← List.map_reverse, hblank]

theorem eq_or_eq_toLower_of_toUpper_eq {c upper : Char} (h : c.toUpper = upper) :
    c = upper ∨ c = upper.toLower := by
  by_cases hlower : c.isLower
  · right
    rw [← h, Char.toLower_toUpper_eq_toLower,
      Char.toLower_eq_of_not_isUpper (Char.not_isUpper_of_isLower hlower)]
  · left
    rw [← h, Char.toUpper_eq_of_not_isLower hlower]

theorem map_withoutMark_map_toUpper (text : List Char) :
    (withoutMark (text.map Char.toUpper)).map Char.toUpper =
      (withoutMark text).map Char.toUpper := by
  have hidem (text : List Char) :
      (text.map Char.toUpper).map Char.toUpper = text.map Char.toUpper := by
    simp
  fun_cases withoutMark text with
  | case1 digits => exact hidem digits
  | case2 digits => exact hidem digits
  | case3 digits => exact hidem digits
  | case4 text hhash hlower hupper =>
    suffices h : withoutMark (text.map Char.toUpper) = text.map Char.toUpper by rw [h, hidem]
    unfold withoutMark
    split
    · next digits heq =>
      obtain ⟨c, others, rfl, hc, -⟩ := List.map_eq_cons_iff.mp heq
      rcases eq_or_eq_toLower_of_toUpper_eq hc with rfl | rfl
      all_goals exact (hhash _ rfl).elim
    · next digits heq =>
      obtain ⟨c, others, rfl, -, hothers⟩ := List.map_eq_cons_iff.mp heq
      obtain ⟨d, rest, rfl, hd, -⟩ := List.map_eq_cons_iff.mp hothers
      exact absurd (by rw [hd]; decide) (not_lower_toUpper d)
    · next digits heq =>
      obtain ⟨c, others, rfl, hc, hothers⟩ := List.map_eq_cons_iff.mp heq
      obtain ⟨d, rest, rfl, hd, -⟩ := List.map_eq_cons_iff.mp hothers
      rcases eq_or_eq_toLower_of_toUpper_eq hc with rfl | rfl
      all_goals
        rcases eq_or_eq_toLower_of_toUpper_eq hd with rfl | rfl
        · exact (hupper _ rfl).elim
        · exact (hlower _ rfl).elim
    · rfl

theorem normalize_map_toUpper (color : String) :
    normalize (String.ofList (color.toList.map Char.toUpper)) = normalize color := by
  rw [normalize, normalize, String.toList_ofList, trim_map_toUpper, map_withoutMark_map_toUpper]

/-- Two texts are the same but for the case of ASCII letters. -/
def SameButCase (first second : String) : Prop :=
  first.toList.map Char.toLower = second.toList.map Char.toLower

instance (first second : String) : Decidable (SameButCase first second) :=
  inferInstanceAs (Decidable (first.toList.map Char.toLower = second.toList.map Char.toLower))

/-- The case of its letters makes no difference to the normal form of a colour. -/
theorem SameButCase.normalize_eq {first second : String} (h : SameButCase first second) :
    normalize first = normalize second := by
  have hupper : first.toList.map Char.toUpper = second.toList.map Char.toUpper := by
    have hraise : Char.toUpper ∘ Char.toLower = Char.toUpper :=
      funext Char.toUpper_toLower_eq_toUpper
    have hlists := congrArg (List.map Char.toUpper) h
    rwa [List.map_map, List.map_map, hraise] at hlists
  rw [← normalize_map_toUpper first, hupper, normalize_map_toUpper]

/-! ### Spellings -/

/-- The marks that may stand before the digits of a colour. -/
def marks : List (List Char) := [[], ['#'], ['0', 'x'], ['0', 'X']]

/-- A colour is written as digits with a mark before them and white space around both. -/
structure Spells (color : String) (digits : List Char) : Prop where
  written : ∃ leading trailing, ∃ mark ∈ marks,
    color.toList = leading ++ (mark ++ digits) ++ trailing ∧
      (∀ c ∈ leading, Text.isBlank c = true) ∧ ∀ c ∈ trailing, Text.isBlank c = true
  trimmed : Text.IsTrimmed digits
  /-- What follows the mark does not begin with another one. -/
  unmarked : withoutMark digits = digits

theorem isTrimmed_mark_append {mark digits : List Char} (hmark : mark ∈ marks)
    (h : Text.IsTrimmed digits) : Text.IsTrimmed (mark ++ digits) := by
  simp only [marks, List.mem_cons, List.not_mem_nil, or_false] at hmark
  rcases hmark with rfl | rfl | rfl | rfl
  · exact h
  all_goals
    constructor
    · rintro c ⟨⟩
      decide
    · intro c hc
      rw [List.getLast?_append] at hc
      cases hlast : digits.getLast? with
      | none =>
        simp only [hlast, Option.none_or, List.getLast?_cons_cons, List.getLast?_singleton,
          Option.mem_some_iff] at hc
        subst hc
        decide
      | some last =>
        rw [hlast] at hc
        exact h.2 c (by rw [hlast]; exact hc)

theorem withoutMark_mark_append {mark digits : List Char} (hmark : mark ∈ marks)
    (h : withoutMark digits = digits) : withoutMark (mark ++ digits) = digits := by
  simp only [marks, List.mem_cons, List.not_mem_nil, or_false] at hmark
  rcases hmark with rfl | rfl | rfl | rfl
  · exact h
  all_goals rfl

/-- The normal form of a colour is that of its digits. -/
theorem Spells.normalize_eq {color : String} {digits : List Char} (h : Spells color digits) :
    normalize color = String.ofList (digits.map Char.toUpper) := by
  obtain ⟨leading, trailing, mark, hmark, hcolor, hleading, htrailing⟩ := h.written
  have htrimmed := isTrimmed_mark_append hmark h.trimmed
  rw [normalize, hcolor, Text.trim_append hleading htrailing htrimmed,
    withoutMark_mark_append hmark h.unmarked]

namespace IsNormal

variable {color : String}

theorem withoutMark_eq (h : IsNormal color) : withoutMark color.toList = color.toList := by
  have hupper := h.upper
  generalize color.toList = text at hupper
  unfold withoutMark
  split
  · simpa using hupper '#'
  · simpa using hupper 'x'
  · simpa using hupper 'X'
  · rfl

theorem spells (h : IsNormal color) : Spells color color.toList where
  written := ⟨[], [], [], by decide, by simp, by simp, by simp⟩
  trimmed :=
    ⟨fun c hc => isBlank_of_upper (h.upper c (List.mem_of_mem_head? hc)),
      fun c hc => isBlank_of_upper (h.upper c (List.mem_of_mem_getLast? hc))⟩
  unmarked := h.withoutMark_eq

/-- A colour in normal form is its own normal form. -/
theorem normalize_eq (h : IsNormal color) : normalize color = color := by
  have hdigits : color.toList.map Char.toUpper = color.toList.map id :=
    List.map_congr_left fun c hc => toUpper_of_upper (h.upper c hc)
  rw [h.spells.normalize_eq, hdigits, List.map_id, String.ofList_toList]

theorem isHex (h : IsNormal color) : isHex color = true := by
  rw [isHex_iff, h.normalize_eq]
  exact h

end IsNormal
end Color
end IconForge
