import Mathlib

/-!
# Values of keys

What a list of keys with their values answers when a key is looked up in it.
-/

namespace IconForge

variable {α β : Type} [DecidableEq α] {entries : List (α × β)} {key : α} {value : β}

theorem mem_of_lookup (h : entries.lookup key = some value) : (key, value) ∈ entries := by
  obtain ⟨before, after, rfl, -⟩ := List.lookup_eq_some_iff.mp h
  simp

theorem lookup_of_mem (unique : (entries.map Prod.fst).Nodup)
    (h : (key, value) ∈ entries) : entries.lookup key = some value := by
  induction entries with
  | nil => simp at h
  | cons entry others ih =>
    rw [List.map_cons, List.nodup_cons] at unique
    rcases List.mem_cons.mp h with rfl | hmem
    · simp
    · have hne : (key == entry.1) = false := by
        rw [beq_eq_false_iff_ne]
        rintro rfl
        exact unique.1 (List.mem_map.mpr ⟨_, hmem, rfl⟩)
      rw [List.lookup_cons, hne]
      exact ih unique.2 hmem

theorem lookup_ne_none (h : key ∈ entries.map Prod.fst) : entries.lookup key ≠ none := by
  obtain ⟨entry, hmem, rfl⟩ := List.mem_map.mp h
  intro hnone
  simpa using List.lookup_eq_none_iff.mp hnone entry hmem

end IconForge
