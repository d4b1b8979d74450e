import IconForge.Text.Lowercase

/-!
# Used names

The names in use in a run: the public names that users have chosen, and the private names allocated
beside them. An allocated name is its base, or if that is in use the base with the least number
after it that is not.
-/

namespace IconForge

structure UsedNames where
  names : List String
  deriving DecidableEq

namespace UsedNames

def empty : UsedNames := ⟨[]⟩

def contains (used : UsedNames) (name : String) : Bool := used.names.contains name

def reserve (used : UsedNames) (name : String) : UsedNames :=
  if used.contains name then used else ⟨name :: used.names⟩

def reserveAll (used : UsedNames) (names : List String) : UsedNames :=
  names.foldl reserve used

/-- The base with the least number from `n` on that makes it free. -/
def freeNumbered (base : String) (taken : List String) (n : Nat) : String :=
  if base ++ toString n ∈ taken then
    freeNumbered base (taken.erase (base ++ toString n)) (n + 1)
  else
    base ++ toString n
termination_by taken.length
decreasing_by
  rw [List.length_erase_of_mem ‹_›]
  exact Nat.sub_one_lt_of_lt (List.length_pos_of_mem ‹_›)

/-- The names in use that begin with a base, in the order of their reservation. -/
def namesAfter (used : UsedNames) (base : String) : List String :=
  (used.names.filter fun name => base.toList.isPrefixOf name.toList).reverse

/-- The base if it is free, or else with the least number from two on that makes it free. -/
def freeName (used : UsedNames) (base : String) : String :=
  if used.contains base then freeNumbered base (used.namesAfter base) 2 else base

def allocate (used : UsedNames) (base : String) : String × UsedNames :=
  let name := used.freeName base
  (name, used.reserve name)

/-- The base of the private slot that holds an icon: an underscore and the name of the icon with its
first character in lower case. -/
def slotStem (icon : String) : String :=
  match icon.toList with
  | [] => "_"
  | first :: others => String.ofList ('_' :: (Text.toLowercase first ++ others))

def allocateSlot (used : UsedNames) (icon : String) : String × UsedNames :=
  used.allocate (slotStem icon)

def allocateSlots (used : UsedNames) : List String → List String × UsedNames
  | [] => ([], used)
  | icon :: others =>
    let (slot, afterFirst) := used.allocateSlot icon
    let (slots, afterAll) := afterFirst.allocateSlots others
    (slot :: slots, afterAll)

end UsedNames
end IconForge
