import IconForge.Proofs.Imports.Blocked
import IconForge.Proofs.Searches

/-!
# The search for an alias

A path without an alias gets one: the simple name behind a marker, and as long as what this gives is
visible, behind another underscore. Each candidate is longer than the one before it and only finitely
many names are visible, so no search goes on for ever, whatever it starts from, and one ends before
it has met more names than are visible. `assignAlias_isLeastFree` says that this is how an alias is
found, and that nothing but the entry for the path is added to the table.
-/

namespace IconForge
namespace ImportTable

variable {table : ImportTable} {candidate : String}

/-- One turn of a search: the candidate is visible, and is tried behind another underscore. -/
def Retries (table : ImportTable) (candidate next : String) : Prop :=
  table.isVisible candidate = true ∧ next = "_" ++ candidate

/-- No search goes on for ever, whatever name it starts from. -/
theorem wellFounded_retries (table : ImportTable) :
    WellFounded fun next candidate => table.Retries candidate next := by
  have hlength (candidate : String) : candidate.length < ("_" ++ candidate).length := by
    rw [String.length_append]
    exact Nat.lt_add_of_pos_left Nat.one_pos
  refine Subrelation.wf ?_ (wellFounded_search table.visibleNames.toFinset String.length hlength)
  rintro next candidate ⟨hvisible, rfl⟩
  exact ⟨List.mem_toFinset.mpr ((isVisible_iff candidate).mp hvisible), rfl⟩

theorem reaches_padded {count : Nat} (h : ∀ i < count, padded i candidate ∈ table.visibleNames) :
    Relation.ReflTransGen table.Retries candidate (padded count candidate) := by
  induction count generalizing candidate with
  | zero =>
    rw [padded_zero]
  | succ count ih =>
    have hfirst := h 0 count.succ_pos
    rw [padded_zero, ← isVisible_iff] at hfirst
    have hothers : Relation.ReflTransGen table.Retries ("_" ++ candidate)
        (padded count ("_" ++ candidate)) := by
      refine ih fun i hi => ?_
      rw [padded_underscore]
      exact h (i + 1) (Nat.succ_lt_succ hi)
    rw [padded_underscore] at hothers
    exact .head ⟨hfirst, rfl⟩ hothers

theorem le_card_visibleNames {count : Nat}
    (h : ∀ i < count, padded i candidate ∈ table.visibleNames) :
    count ≤ table.visibleNames.toFinset.card := by
  refine Finset.le_card_of_inj_on_range (padded · candidate) ?_ ?_
  · intro i hi
    exact List.mem_toFinset.mpr (h i hi)
  · intro i _ j _ heq
    exact padded_injective candidate heq

/-- A name that has no owner and is no alias. -/
def IsFree (table : ImportTable) (name : String) : Prop :=
  name ∉ table.owners.map Prod.fst ∧ name ∉ table.aliases.map Prod.snd

theorem isFree_iff (name : String) : table.IsFree name ↔ name ∉ table.visibleNames := by
  rw [IsFree, mem_visibleNames, not_or]

/-- What a table becomes when a path gets an alias: the entry is added, and all else is as before. -/
structure AddsAlias (table : ImportTable) (path name : String) (after : ImportTable) : Prop where
  package_eq : after.package = table.package
  owners_eq : after.owners = table.owners
  extensions_eq : after.extensions = table.extensions
  aliases_eq : after.aliases = (path, name) :: table.aliases
  alias?_eq : ∀ other, after.alias? other = if other = path then some name else table.alias? other

theorem addsAlias_cons (table : ImportTable) (path name : String) :
    table.AddsAlias path name { table with aliases := (path, name) :: table.aliases } where
  package_eq := rfl
  owners_eq := rfl
  extensions_eq := rfl
  aliases_eq := rfl
  alias?_eq other := by
    rw [alias?, alias?, List.lookup_cons]
    by_cases hother : other = path
    · rw [if_pos hother, hother, beq_self_eq_true]
    · rw [if_neg hother, beq_eq_false_iff_ne.mpr hother]

/-- No search for an alias goes on for ever. A path that has an alias keeps it, and the table is left
as it was. Any other one gets the name behind the marker, with the least number of underscores
before both that makes it free. That is where a search from the marked name stops, after no more
turns than there are visible names. The table has the new entry and is otherwise as it was. -/
theorem assignAlias_isLeastFree (table : ImportTable) (symbol : Symbol) (marker : String) :
    (WellFounded fun next candidate => table.Retries candidate next) ∧
      ∃ name after, table.assignAlias symbol marker = (name, after) ∧
        (table.alias? symbol.importPath = some name ∧ after = table ∨
          table.alias? symbol.importPath = none ∧
            table.AddsAlias symbol.importPath name after ∧
              ∃ count, name = padded count (marker ++ symbol.importName) ∧
                IsLeast {k | table.IsFree (padded k (marker ++ symbol.importName))} count ∧
                  Relation.ReflTransGen table.Retries (marker ++ symbol.importName) name ∧
                    count ≤ table.visibleNames.toFinset.card) := by
  refine ⟨table.wellFounded_retries, ?_⟩
  cases halias : table.alias? symbol.importPath with
  | some name => exact ⟨name, table, by rw [assignAlias, halias], .inl ⟨rfl, rfl⟩⟩
  | none =>
    obtain ⟨name, ⟨count, rfl, hfree, hleast⟩, heq⟩ :=
      assignAlias_eq_of_alias?_eq_none marker halias
    refine ⟨_, _, heq, .inr ⟨rfl, addsAlias_cons table _ _, count, rfl, ⟨?_, ?_⟩,
      reaches_padded hleast, le_card_visibleNames hleast⟩⟩
    · exact (isFree_iff _).mpr hfree
    · intro k hk
      by_contra hlt
      exact (isFree_iff _).mp hk (hleast k (not_le.mp hlt))

/-- An alias of the user's symbol `Icons` meets a declaration and the alias of another symbol. -/
example :
    let table : ImportTable :=
      ⟨"icons", [("___Icons", .declared)], [("other.Icons", "____Icons")], []⟩
    (table.assignAlias (.topLevel "icons" "Icons") authorMarker).1 = "_____Icons" := by
  cbv

end ImportTable
end IconForge
