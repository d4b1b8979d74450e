import IconForge.Proofs.Lookups
import IconForge.Text.Lowercase
import IconForge.Text.Word

/-!
# Lower-case forms

Letters and numbers lie at or behind the digit zero in the order of characters, and so do their
lower-case forms; the separators of packages and of paths lie before it. Every character has a
lower-case form.
-/

namespace IconForge
namespace Text

variable {c form : Char}

theorem CodePointRanges.le_of_contains {ranges : CodePointRanges} {bound : Nat}
    (hranges : ∀ range ∈ ranges, bound ≤ range.1) (h : ranges.contains c = true) :
    bound ≤ c.toNat := by
  unfold contains at h
  obtain ⟨range, hmem, hin⟩ := List.any_eq_true.mp h
  have hbound := hranges range hmem
  simp only [Bool.and_eq_true, decide_eq_true_eq] at hin
  omega

theorem digit_le_of_isAlphanumeric (h : isAlphanumeric c = true) : '0'.toNat ≤ c.toNat := by
  unfold isAlphanumeric at h
  rcases Bool.or_eq_true_iff.mp h with hletter | hnumber
  · exact CodePointRanges.le_of_contains (by decide +kernel) hletter
  · exact CodePointRanges.le_of_contains (by decide +kernel) hnumber

/-! ### Partners -/

/-- A run whose partners are characters at or behind the digit zero. -/
def CaseRun.IsBehindDigits : CaseRun → Prop
  | (first, last, _, distance) =>
    (0x30 ≤ (first : Int) + distance ∧ (last : Int) + distance < 0xD800) ∨
      (0xE000 ≤ (first : Int) + distance ∧ (last : Int) + distance < 0x110000)

instance (run : CaseRun) : Decidable run.IsBehindDigits := by
  unfold CaseRun.IsBehindDigits
  infer_instance

theorem CaseRun.digit_le_of_partner? {run : CaseRun} {code : Nat} (hrun : run.IsBehindDigits)
    (h : run.partner? code = some form) : '0'.toNat ≤ form.toNat := by
  obtain ⟨first, last, step, distance⟩ := run
  dsimp only [partner?] at h
  split at h
  · next hcode =>
    obtain rfl := Option.some.inj h
    have hvalid : ((code : Int) + distance).toNat.isValidChar := by
      unfold Nat.isValidChar
      unfold IsBehindDigits at hrun
      omega
    have hform : (Char.ofNat ((code : Int) + distance).toNat).toNat =
        ((code : Int) + distance).toNat := by
      rw [Char.toNat_ofNat, if_pos hvalid]
    have hdigit : '0'.toNat = 0x30 := rfl
    rw [hform, hdigit]
    unfold IsBehindDigits at hrun
    omega
  · cases h

theorem digit_le_of_mem_toLowercase (hc : '0'.toNat ≤ c.toNat) (h : form ∈ toLowercase c) :
    '0'.toNat ≤ form.toNat := by
  have hexpansions : ∀ expansion ∈ lowercaseExpansions, ∀ code ∈ expansion.2,
      '0'.toNat ≤ (Char.ofNat code).toNat := by
    decide
  have hruns : ∀ run ∈ lowercaseRuns, CaseRun.IsBehindDigits run := by decide +kernel
  unfold toLowercase caseForm at h
  split at h
  · next codes hcodes =>
    obtain ⟨code, hcode, rfl⟩ := List.mem_map.mp h
    exact hexpansions _ (mem_of_lookup hcodes) code hcode
  · obtain rfl := List.mem_singleton.mp h
    cases hpartner : lowercaseRuns.findSome? (·.partner? c.toNat) with
    | none => exact hc
    | some partner =>
      obtain ⟨run, hrun, hsome⟩ := List.exists_of_findSome?_eq_some hpartner
      exact CaseRun.digit_le_of_partner? (hruns run hrun) hsome

theorem toLowercase_ne_nil (c : Char) : toLowercase c ≠ [] := by
  have hexpansions : ∀ expansion ∈ lowercaseExpansions, expansion.2 ≠ [] := by decide
  unfold toLowercase caseForm
  split
  · next codes hcodes =>
    intro hnil
    exact hexpansions _ (mem_of_lookup hcodes) (List.map_eq_nil_iff.mp hnil)
  · exact List.cons_ne_nil _ _

end Text
end IconForge
