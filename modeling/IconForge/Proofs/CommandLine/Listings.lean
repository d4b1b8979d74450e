import IconForge.Proofs.CommandLine.DirectoryTree

/-!
# Listings of directories

A directory lists its entries in an order that is up to the system. If the entries of each directory
have different names, there is only one way in which they are sorted by name, so whatever the order
of the listings at every level, a directory tree is read in the same way: as the same group, or with
the same error (`readGroup_listed_eq`).
-/

namespace IconForge
namespace FileEntry

/-! ### Entries with different names -/

mutual

/-- The entries of every directory have different names. -/
def HasDistinctNames : FileEntry → Prop
  | directory entries => (entries.map Prod.fst).Nodup ∧ HaveDistinctNames entries
  | file _ => True
  | unreadableFile _ => True
  | unreadableDirectory _ => True

/-- The entries of every directory among some entries and below them have different names. -/
def HaveDistinctNames : List (String × FileEntry) → Prop
  | [] => True
  | (_, entry) :: others => HasDistinctNames entry ∧ HaveDistinctNames others

end

/-! ### Orders of listings -/

/-- In which order the directory at each place, given by the names that lead to it, lists its
entries. -/
structure ListingOrder where
  list : List String → List (String × FileEntry) → List (String × FileEntry)
  perm : ∀ place entries, (list place entries).Perm entries

mutual

/-- An entry at a place whose directories are listed in some order, at every level. -/
def listed (order : ListingOrder) (place : List String) : FileEntry → FileEntry
  | directory entries => directory (order.list place (listedEach order place entries))
  | file contents => file contents
  | unreadableFile reason => unreadableFile reason
  | unreadableDirectory reason => unreadableDirectory reason

/-- Entries of the directory at a place that are each listed in some order. -/
def listedEach (order : ListingOrder) (place : List String) :
    List (String × FileEntry) → List (String × FileEntry)
  | [] => []
  | (name, entry) :: others =>
    (name, entry.listed order (place ++ [name])) :: listedEach order place others

end

/-! ### Sorted entries -/

def byName (entries : List (String × FileEntry)) : List (String × FileEntry) :=
  entries.mergeSort fun first second => decide (first.1 ≤ second.1)

theorem byName_perm (entries : List (String × FileEntry)) : (byName entries).Perm entries :=
  List.mergeSort_perm entries _

theorem pairwise_byName (entries : List (String × FileEntry)) :
    (byName entries).Pairwise fun first second => first.1 ≤ second.1 := by
  have hpairwise : (byName entries).Pairwise
      fun first second => decide (first.1 ≤ second.1) = true := by
    refine List.pairwise_mergeSort ?_ ?_ entries
    · intro a b c hab hbc
      exact decide_eq_true (le_trans (of_decide_eq_true hab) (of_decide_eq_true hbc))
    · intro a b
      simpa using le_total a.1 b.1
  exact hpairwise.imp of_decide_eq_true

/-- Entries with different names have one order by name, however they are listed. -/
theorem byName_eq_of_perm {first second : List (String × FileEntry)} (h : first.Perm second)
    (hnames : (first.map Prod.fst).Nodup) : byName first = byName second := by
  refine List.Perm.eq_of_pairwise ?_ (pairwise_byName first) (pairwise_byName second)
    ((byName_perm first).trans (h.trans (byName_perm second).symm))
  intro entry other hentry hother hle hge
  have hentry := (byName_perm first).mem_iff.mp hentry
  have hother := h.mem_iff.mpr ((byName_perm second).mem_iff.mp hother)
  exact List.inj_on_of_nodup_map hnames hentry hother (le_antisymm hle hge)

theorem sortedEach_eq_map (entries : List (String × FileEntry)) :
    sortedEach entries = entries.map fun entry => (entry.1, entry.2.sorted) := by
  induction entries with
  | nil => rfl
  | cons entry others ih => rw [sortedEach, ih, List.map_cons]

/-- The entries of a directory are ordered by name, and then each is sorted. -/
theorem sorted_directory (entries : List (String × FileEntry)) :
    (directory entries).sorted = directory (sortedEach (byName entries)) := by
  rw [sorted, sortedEach_eq_map, sortedEach_eq_map, byName]
  refine congrArg directory (List.map_mergeSort ?_).symm
  intros
  rfl

theorem map_fst_listedEach (order : ListingOrder) (place : List String)
    (entries : List (String × FileEntry)) :
    (listedEach order place entries).map Prod.fst = entries.map Prod.fst := by
  induction entries with
  | nil => rfl
  | cons entry others ih => rw [listedEach, List.map_cons, List.map_cons, ih]

mutual

theorem sorted_listed (order : ListingOrder) (place : List String) {entry : FileEntry}
    (h : entry.HasDistinctNames) : (entry.listed order place).sorted = entry.sorted := by
  match entry with
  | directory entries =>
    obtain ⟨hnames, hbelow⟩ := h
    have hlisting : byName (order.list place (listedEach order place entries)) =
        byName (listedEach order place entries) := by
      refine (byName_eq_of_perm (order.perm place _).symm ?_).symm
      rwa [map_fst_listedEach]
    rw [listed, sorted_directory, hlisting, ← sorted_directory, sorted, sorted,
      sortedEach_listedEach order place hbelow]
  | file contents => rw [listed]
  | unreadableFile reason => rw [listed]
  | unreadableDirectory reason => rw [listed]

theorem sortedEach_listedEach (order : ListingOrder) (place : List String)
    {entries : List (String × FileEntry)} (h : HaveDistinctNames entries) :
    sortedEach (listedEach order place entries) = sortedEach entries := by
  match entries with
  | [] => rw [listedEach]
  | (name, entry) :: others =>
    rw [listedEach, sortedEach, sortedEach, sorted_listed order _ h.1,
      sortedEach_listedEach order place h.2]

end

/-! ### Reading directory by directory

That the whole tree is sorted at first comes to the same as sorting each directory when it is read.
-/

theorem readGroup_directory (path package className : String)
    (entries : List (String × FileEntry)) :
    (directory entries).readGroup path package className = do
      let (icons, children) ← readEntries path package [] (sortedEach (byName entries))
      return ⟨package, className, icons, children⟩ := by
  unfold readGroup
  rw [sorted_directory]

/-- A directory among them is read in its turn, as a group of its own, after its package has been
compared with those of the siblings before it. -/
theorem readEntries_directory (path package : String) (siblings : List (String × String))
    (name : String) (entries others : List (String × FileEntry)) :
    readEntries path package siblings ((name, (directory entries).sorted) :: others) =
      let childPath := FilePath.push path name
      let childPackage := packageBelow package name
      let childClass := classOfDirectory name
      match siblings.lookup childPackage with
      | some className => .error (.sharedPackage childPath childPackage className)
      | none => do
        let child ← (directory entries).readGroup childPath childPackage childClass
        let (icons, children) ←
          readEntries path package (siblings ++ [(childPackage, childClass)]) others
        return (icons, child :: children) := by
  unfold packageBelow
  rw [sorted_directory, readEntries]
  dsimp only
  cases siblings.lookup (package ++ "." ++ segmentOfDirectory name) with
  | some className => rfl
  | none =>
    simp only [readGroup_directory, bind_assoc, pure_bind]
    rfl

/-! ### Reading a tree -/

/-- Whatever the orders in which the directories of a tree list their entries, at every level, the
tree is read as the same group or with the same error. -/
theorem readGroup_listed_eq {entry : FileEntry} (h : entry.HasDistinctNames)
    (first second : ListingOrder) (path package className : String) :
    (entry.listed first []).readGroup path package className =
      (entry.listed second []).readGroup path package className := by
  rw [readGroup, readGroup, sorted_listed first [] h, sorted_listed second [] h]

/-- A tree with a fault in each of its directories: two directories in it have the same package, and
the last one has two icons that cannot be read. -/
def faulty : FileEntry :=
  .directory
    [("zoom", .directory [("b.toml", .unreadableFile "second"), ("a.toml", .unreadableFile "first")]),
      ("tool-window", .directory []), ("Toolwindow", .directory [("Icons", .directory [])])]

/-- Every directory lists its entries from the last to the first. -/
def reversedOrder : ListingOrder := ⟨fun _ entries => entries.reverse, fun _ => List.reverse_perm⟩

/-- Every directory lists its entries as they are given. -/
def givenOrder : ListingOrder := ⟨fun _ entries => entries, fun _ => .refl⟩

theorem faulty_readGroup_reversed :
    faulty.HasDistinctNames ∧
      (faulty.listed reversedOrder []).readGroup "icons" "icons" "Icons" =
        .error (.sharedPackage "icons/tool-window" "icons.toolwindow" "Toolwindow") := by
  have hnames : faulty.HasDistinctNames := by
    simp [faulty, HasDistinctNames, HaveDistinctNames]
  have hsegments : segmentOfDirectory "Toolwindow" = "toolwindow" ∧
      segmentOfDirectory "tool-window" = "toolwindow" ∧
        classOfDirectory "Toolwindow" = "Toolwindow" := by
    decide +kernel
  have hpath : FilePath.push "icons" "tool-window" = "icons/tool-window" := by decide
  have hgiven : (faulty.listed givenOrder []).readGroup "icons" "icons" "Icons" =
      .error (.sharedPackage "icons/tool-window" "icons.toolwindow" "Toolwindow") := by
    simp [faulty, listed, listedEach, givenOrder, readGroup, sorted, sortedEach, List.mergeSort,
      readEntries, hsegments, hpath, bind, Except.bind, pure, Except.pure]
  exact ⟨hnames, by rw [readGroup_listed_eq hnames reversedOrder givenOrder, hgiven]⟩

end FileEntry
end IconForge
