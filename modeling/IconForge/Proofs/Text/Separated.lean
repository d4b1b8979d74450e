import IconForge.Text.Separated
import Mathlib

/-!
# Laws of separated texts

The fields of a text are what the list library splits it into, and a text is determined by its
fields. The last separator is found behind anything.
-/

namespace IconForge
namespace Text

variable {isSeparator : Char → Bool} {separator : Char}

theorem splitLast?_eq_none {text : List Char} (h : separator ∉ text) :
    splitLast? separator text = none := by
  induction text with
  | nil => rfl
  | cons c rest ih =>
    rw [List.mem_cons, not_or] at h
    simp [splitLast?, ih h.2, Ne.symm h.1]

theorem splitLast?_append (before : List Char) {after : List Char} (h : separator ∉ after) :
    splitLast? separator (before ++ separator :: after) = some (before, after) := by
  induction before with
  | nil => simp [splitLast?, splitLast?_eq_none h]
  | cons c rest ih => simp [splitLast?, ih]

theorem fields_eq_splitOnP (isSeparator : Char → Bool) (text : List Char) :
    fields isSeparator text = text.splitOnP isSeparator := by
  induction text with
  | nil => rfl
  | cons c rest ih =>
    rw [fields, ih, List.splitOnP_cons_eq_if_modifyHead]
    split
    · rfl
    · cases h : rest.splitOnP isSeparator with
      | nil => exact absurd h (List.splitOnP_ne_nil isSeparator rest)
      | cons field others => rfl

theorem fields_append_cons (first second : List Char) {c : Char} (hc : isSeparator c = true) :
    fields isSeparator (first ++ c :: second) =
      fields isSeparator first ++ fields isSeparator second := by
  simp only [fields_eq_splitOnP]
  exact List.splitOnP_append_cons first second hc

theorem fields_eq_singleton {text : List Char} (h : ∀ c ∈ text, isSeparator c = false) :
    fields isSeparator text = [text] := by
  rw [fields_eq_splitOnP]
  exact List.splitOnP_eq_singleton h

theorem of_mem_fields {text field : List Char} (h : field ∈ fields isSeparator text) :
    ∀ c ∈ field, c ∈ text ∧ isSeparator c = false := by
  induction text generalizing field with
  | nil =>
    rw [fields, List.mem_singleton] at h
    simp [h]
  | cons c rest ih =>
    rw [fields] at h
    split at h
    · intro d hd
      rcases List.mem_cons.mp h with rfl | hrest
      · cases hd
      · exact ⟨List.mem_cons_of_mem c (ih hrest d hd).1, (ih hrest d hd).2⟩
    next hc =>
    split at h
    · rw [List.mem_singleton] at h
      simp [h, hc]
    · next head others hfields =>
      intro d hd
      rcases List.mem_cons.mp h with rfl | hrest
      · rcases List.mem_cons.mp hd with rfl | hhead
        · exact ⟨List.mem_cons_self, by simpa using hc⟩
        · have hmem := ih (hfields ▸ List.mem_cons_self) d hhead
          exact ⟨List.mem_cons_of_mem c hmem.1, hmem.2⟩
      · have hmem := ih (hfields ▸ List.mem_cons_of_mem head hrest) d hd
        exact ⟨List.mem_cons_of_mem c hmem.1, hmem.2⟩

/-- A text is its fields with the separator between them. -/
theorem fields_injective {first second : List Char}
    (h : fields (· = separator) first = fields (· = separator) second) : first = second := by
  have join (text : List Char) : [separator].intercalate (fields (· = separator) text) = text := by
    rw [fields_eq_splitOnP]
    exact List.intercalate_splitOn separator
  rw [← join first, h, join second]

theorem words_append_cons (first second : List Char) {c : Char} (hc : isSeparator c = true) :
    words isSeparator (first ++ c :: second) =
      words isSeparator first ++ words isSeparator second := by
  simp [words, fields_append_cons first second hc]

theorem words_eq_singleton {text : List Char} (h : ∀ c ∈ text, isSeparator c = false)
    (hne : text ≠ []) : words isSeparator text = [text] := by
  simp [words, fields_eq_singleton h, hne]

end Text
end IconForge
