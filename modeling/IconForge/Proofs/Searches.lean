import Mathlib

/-!
# Searches that end

A search goes from a candidate to the next one as long as the candidate is taken. If every candidate
ranks higher than the one before it and only finitely many are taken, no search goes on for ever,
whatever candidate it starts from.
-/

namespace IconForge

variable {α : Type} {step : α → α}

/-- Every turn leaves fewer taken candidates that rank as high as the current one. -/
theorem card_filter_step_lt {taken : Finset α} {rank : α → Nat} {candidate : α}
    (hstep : rank candidate < rank (step candidate)) (h : candidate ∈ taken) :
    (taken.filter fun other => rank (step candidate) ≤ rank other).card <
      (taken.filter fun other => rank candidate ≤ rank other).card := by
  apply Finset.card_lt_card
  rw [Finset.ssubset_iff_of_subset]
  · refine ⟨candidate, Finset.mem_filter.mpr ⟨h, le_rfl⟩, ?_⟩
    intro hmem
    exact absurd (Finset.mem_filter.mp hmem).2 (not_le.mpr hstep)
  · intro other hother
    rw [Finset.mem_filter] at hother ⊢
    exact ⟨hother.1, hstep.le.trans hother.2⟩

theorem wellFounded_search (taken : Finset α) (rank : α → Nat)
    (hstep : ∀ candidate, rank candidate < rank (step candidate)) :
    WellFounded fun next candidate => candidate ∈ taken ∧ next = step candidate := by
  let ahead (candidate : α) : Nat :=
    (taken.filter fun other => rank candidate ≤ rank other).card
  refine Subrelation.wf (r := fun next candidate => ahead next < ahead candidate) ?_ (measure ahead).wf
  rintro next candidate ⟨h, rfl⟩
  exact card_filter_step_lt (hstep candidate) h

end IconForge
