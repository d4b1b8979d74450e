import IconForge.Proofs.Generation.UsedNames
import IconForge.Proofs.Searches

/-!
# The search for a free name

A search goes from number to number as long as the name with the number is in use. Distinct numbers
give distinct names and only finitely many names are in use, so no search goes on for ever, and one
that starts at two ends before it has met more names than are in use. `allocate_isFirstFree` says
that this is how the name for a base is found, and what is in use afterwards.
-/

namespace IconForge
namespace UsedNames

variable {used : UsedNames} {base : String}

/-- One turn of a search: the name with the number is in use, and the next number is tried. -/
def Retries (used : UsedNames) (base : String) (n next : Nat) : Prop :=
  numbered base n ∈ used.names ∧ next = n + 1

noncomputable def numbersInUse (used : UsedNames) (base : String) : Finset Nat :=
  used.names.toFinset.preimage (numbered base) (numbered_injective base).injOn

theorem mem_numbersInUse {n : Nat} :
    n ∈ used.numbersInUse base ↔ numbered base n ∈ used.names := by
  rw [numbersInUse, Finset.mem_preimage, List.mem_toFinset]

/-- No search goes on for ever, whatever number it starts at. -/
theorem wellFounded_retries (used : UsedNames) (base : String) :
    WellFounded fun next n => used.Retries base n next := by
  refine Subrelation.wf ?_ (wellFounded_search (used.numbersInUse base) id Nat.lt_succ_self)
  rintro next n ⟨hused, rfl⟩
  exact ⟨mem_numbersInUse.mpr hused, rfl⟩

theorem reaches_of_forall_mem {start n : Nat} (hstart : start ≤ n)
    (h : ∀ k, start ≤ k → k < n → numbered base k ∈ used.names) :
    Relation.ReflTransGen (used.Retries base) start n := by
  induction n, hstart using Nat.le_induction with
  | base => exact .refl
  | succ n hn ih =>
    refine (ih fun k hk hkn => h k hk (Nat.lt_succ_of_lt hkn)).tail ?_
    exact ⟨h n hn (Nat.lt_succ_self n), rfl⟩

theorem numbered_ne_base (base : String) (n : Nat) : numbered base n ≠ base := by
  intro h
  have hlist := congrArg String.toList h
  rw [toList_numbered, List.append_right_eq_self] at hlist
  exact Nat.toDigits_ne_nil (String.toList_ofList.symm.trans hlist)

/-- The base and the names with the numbers from two on are distinct names in use. -/
theorem le_card_of_forall_mem {n : Nat} (hbase : base ∈ used.names) (hn : 2 ≤ n)
    (h : ∀ k, 2 ≤ k → k < n → numbered base k ∈ used.names) :
    n ≤ used.names.toFinset.card + 1 := by
  have hsubset : insert base ((Finset.Ico 2 n).image (numbered base)) ⊆ used.names.toFinset := by
    intro name hname
    rw [List.mem_toFinset]
    rcases Finset.mem_insert.mp hname with rfl | himage
    · exact hbase
    · obtain ⟨k, hk, rfl⟩ := Finset.mem_image.mp himage
      rw [Finset.mem_Ico] at hk
      exact h k hk.1 hk.2
  have hfresh : base ∉ (Finset.Ico 2 n).image (numbered base) := by
    intro hmem
    obtain ⟨k, -, hk⟩ := Finset.mem_image.mp hmem
    exact numbered_ne_base base k hk
  have hcard := Finset.card_le_card hsubset
  rw [Finset.card_insert_of_notMem hfresh,
    Finset.card_image_of_injective _ (numbered_injective base), Nat.card_Ico] at hcard
  omega

/-- Every search for a number ends. The name that is allocated for a base was free: it is the base
if that was free, and otherwise the base with the least number from two on for which the name was.
That is where a search stops that starts at two, and it is at most one more than the number of names
in use. Afterwards exactly the names before and the allocated one are in use. -/
theorem allocate_isFirstFree (used : UsedNames) (base : String) :
    (WellFounded fun next n => used.Retries base n next) ∧
      ∃ name after, used.allocate base = (name, after) ∧ name ∉ used.names ∧
        (base ∉ used.names ∧ name = base ∨
          base ∈ used.names ∧ ∃ n, name = numbered base n ∧
            IsLeast {k | 2 ≤ k ∧ numbered base k ∉ used.names} n ∧
              Relation.ReflTransGen (used.Retries base) 2 n ∧
                n ≤ used.names.toFinset.card + 1) ∧
          ∀ other, other ∈ after.names ↔ other = name ∨ other ∈ used.names := by
  refine ⟨wellFounded_retries used base, used.freeName base, _, rfl, used.freeName_notMem base,
    ?_, fun other => mem_reserve used _⟩
  rcases used.freeName_spec base with hfree | ⟨hbase, n, hn, heq, hfree, hleast⟩
  · exact .inl hfree
  · refine .inr ⟨hbase, n, heq, ⟨⟨hn, hfree⟩, ?_⟩, reaches_of_forall_mem hn hleast,
      le_card_of_forall_mem hbase hn hleast⟩
    rintro k ⟨hk, hknown⟩
    by_contra hkn
    exact hknown (hleast k hk (not_le.mp hkn))

end UsedNames
end IconForge
