import IconForge.Generation.UsedNames
import Mathlib

/-!
# Names that are allocated

The name that is allocated for a base is the base itself if it is free, and otherwise the base with
the least number from two on that makes it so (`freeName_spec`). Either way it was free, and no name
is ever given back. Hence the names that are allocated one after another are distinct, and none of
them was in use before (`Allocates`).
-/

namespace IconForge
namespace UsedNames

/-! ### Numbers behind a base -/

def numbered (base : String) (n : Nat) : String := base ++ toString n

theorem toList_numbered (base : String) (n : Nat) :
    (numbered base n).toList = base.toList ++ (toString n).toList :=
  String.toList_append

theorem numbered_injective (base : String) : Function.Injective (numbered base) := by
  intro i j h
  have hlist := congrArg String.toList h
  rw [toList_numbered, toList_numbered] at hlist
  apply Nat.repr_inj.mp
  exact String.toList_inj.mp (List.append_cancel_left hlist)

theorem freeNumbered_spec (base : String) (taken : List String) (start : Nat) :
    ∃ n, start ≤ n ∧ freeNumbered base taken start = numbered base n ∧
      numbered base n ∉ taken ∧ ∀ k, start ≤ k → k < n → numbered base k ∈ taken := by
  fun_induction freeNumbered base taken start with
  | case1 taken start occupied ih =>
    obtain ⟨n, hstart, heq, hfree, hleast⟩ := ih
    refine ⟨n, by omega, heq, ?_, ?_⟩
    · intro hmem
      apply hfree
      apply (List.mem_erase_of_ne ?_).mpr hmem
      intro hself
      have hn := numbered_injective base hself
      omega
    · intro k hk hkn
      by_cases hfirst : k = start
      · rw [hfirst]
        exact occupied
      · exact List.mem_of_mem_erase (hleast k (by omega) hkn)
  | case2 taken start free =>
    refine ⟨start, le_rfl, rfl, free, ?_⟩
    intro k hk hkn
    omega

/-! ### Names in use -/

variable {used after : UsedNames} {base name : String}

theorem contains_iff : used.contains name = true ↔ name ∈ used.names := List.contains_iff_mem

@[simp] theorem mem_reserve (used : UsedNames) (reserved : String) :
    name ∈ (used.reserve reserved).names ↔ name = reserved ∨ name ∈ used.names := by
  unfold reserve
  split
  · next hcontains =>
    rw [contains_iff] at hcontains
    constructor
    · exact .inr
    · rintro (rfl | hmem)
      · exact hcontains
      · exact hmem
  · exact List.mem_cons

@[simp] theorem mem_reserveAll (used : UsedNames) (reserved : List String) :
    name ∈ (used.reserveAll reserved).names ↔ name ∈ reserved ∨ name ∈ used.names := by
  unfold reserveAll
  induction reserved generalizing used with
  | nil => simp
  | cons first others ih =>
    rw [List.foldl_cons, ih, mem_reserve, List.mem_cons]
    tauto

theorem mem_namesAfter :
    name ∈ used.namesAfter base ↔ name ∈ used.names ∧ base.toList <+: name.toList := by
  simp [namesAfter]

theorem numbered_mem_namesAfter (n : Nat) :
    numbered base n ∈ used.namesAfter base ↔ numbered base n ∈ used.names := by
  rw [mem_namesAfter, toList_numbered]
  exact and_iff_left (List.prefix_append _ _)

/-! ### Names that are allocated -/

/-- The name for a base: the base, or the base with the least number that makes it free. -/
theorem freeName_spec (used : UsedNames) (base : String) :
    base ∉ used.names ∧ used.freeName base = base ∨
      base ∈ used.names ∧ ∃ n, 2 ≤ n ∧ used.freeName base = numbered base n ∧
        numbered base n ∉ used.names ∧
          ∀ k, 2 ≤ k → k < n → numbered base k ∈ used.names := by
  by_cases hbase : base ∈ used.names
  · right
    obtain ⟨n, hn, heq, hfree, hleast⟩ := freeNumbered_spec base (used.namesAfter base) 2
    rw [numbered_mem_namesAfter] at hfree
    refine ⟨hbase, n, hn, ?_, hfree, ?_⟩
    · rw [freeName, if_pos (contains_iff.mpr hbase), heq]
    · intro k hk hkn
      exact (numbered_mem_namesAfter k).mp (hleast k hk hkn)
  · left
    refine ⟨hbase, ?_⟩
    rw [freeName, if_neg (contains_iff.not.mpr hbase)]

theorem freeName_notMem (used : UsedNames) (base : String) :
    used.freeName base ∉ used.names := by
  rcases used.freeName_spec base with ⟨hfree, heq⟩ | ⟨-, n, -, heq, hfree, -⟩
  · rw [heq]
    exact hfree
  · rw [heq]
    exact hfree

theorem prefix_freeName (used : UsedNames) (base : String) :
    base.toList <+: (used.freeName base).toList := by
  rcases used.freeName_spec base with ⟨-, heq⟩ | ⟨-, n, -, heq, -⟩
  · rw [heq]
  · rw [heq, toList_numbered]
    exact List.prefix_append _ _

/-- Names that are allocated, given the names in use before and afterwards: they are distinct and
were free, and all are in use afterwards, with those that were before. -/
structure Allocates (used : UsedNames) (allocated : List String) (after : UsedNames) : Prop where
  nodup : allocated.Nodup
  fresh : ∀ name ∈ allocated, name ∉ used.names
  kept : ∀ name ∈ used.names, name ∈ after.names
  taken : ∀ name ∈ allocated, name ∈ after.names

namespace Allocates

variable {between : UsedNames} {first second : List String}

theorem nil (used : UsedNames) : Allocates used [] used :=
  ⟨List.nodup_nil, by simp, fun _ h => h, by simp⟩

/-- Names that are allocated later are free after the first ones, and so are none of them. -/
theorem append (hfirst : Allocates used first between) (hsecond : Allocates between second after) :
    Allocates used (first ++ second) after := by
  constructor
  case nodup =>
    apply hfirst.nodup.append hsecond.nodup
    intro name hmem hmem'
    exact hsecond.fresh name hmem' (hfirst.taken name hmem)
  case fresh =>
    intro name hmem hused
    rcases List.mem_append.mp hmem with h | h
    · exact hfirst.fresh name h hused
    · exact hsecond.fresh name h (hfirst.kept name hused)
  case kept =>
    intro name hused
    exact hsecond.kept name (hfirst.kept name hused)
  case taken =>
    intro name hmem
    rcases List.mem_append.mp hmem with h | h
    · exact hsecond.kept name (hfirst.taken name h)
    · exact hsecond.taken name h

theorem of_reserveAll {reserved : List String}
    (h : Allocates (used.reserveAll reserved) first after) : Allocates used first after := by
  constructor
  case nodup => exact h.nodup
  case fresh =>
    intro name hmem hused
    exact h.fresh name hmem ((mem_reserveAll used reserved).mpr (.inr hused))
  case kept =>
    intro name hused
    exact h.kept name ((mem_reserveAll used reserved).mpr (.inr hused))
  case taken => exact h.taken

end Allocates

theorem allocate_allocates (used : UsedNames) (base : String) :
    Allocates used [(used.allocate base).1] (used.allocate base).2 := by
  constructor
  case nodup => exact List.nodup_singleton _
  case fresh =>
    intro name hmem
    rw [List.mem_singleton.mp hmem]
    exact used.freeName_notMem base
  case kept =>
    intro name hused
    exact (mem_reserve used _).mpr (.inr hused)
  case taken =>
    intro name hmem
    exact (mem_reserve used _).mpr (.inl (List.mem_singleton.mp hmem))

theorem allocateSlots_allocates (used : UsedNames) (icons : List String) :
    Allocates used (used.allocateSlots icons).1 (used.allocateSlots icons).2 := by
  induction icons generalizing used with
  | nil => exact .nil used
  | cons icon others ih =>
    exact (used.allocate_allocates (slotStem icon)).append (ih (used.allocateSlot icon).2)

/-! ### Names of slots -/

theorem underscore_prefix_slotStem (icon : String) : ['_'] <+: (slotStem icon).toList := by
  unfold slotStem
  split
  · exact List.prefix_rfl
  · rw [String.toList_ofList]
    exact List.prefix_append ['_'] _

theorem underscore_prefix_allocateSlots (used : UsedNames) (icons : List String) :
    ∀ slot ∈ (used.allocateSlots icons).1, ['_'] <+: slot.toList := by
  induction icons generalizing used with
  | nil => simp [allocateSlots]
  | cons icon others ih =>
    simp only [allocateSlots, List.forall_mem_cons]
    constructor
    · exact (underscore_prefix_slotStem icon).trans (used.prefix_freeName (slotStem icon))
    · exact ih (used.allocateSlot icon).2

end UsedNames
end IconForge
