import IconForge.CommandLine.DirectoryTree
import IconForge.Proofs.Generation.Directories
import IconForge.Proofs.Text.Lowercase

/-!
# Packages and directories of a directory tree

The segment of a directory has only characters at or behind the digit zero, hence no dot and no
slash, and it is empty if the name of the directory has no letter and no number. The groups of a
directory tree that is read have different packages; their directories are different if and only if
every directory has a letter or a number in its name (`readGroup_directories`). Otherwise the files
of a group are written into the directory of the group above it.
-/

namespace IconForge

/-! ### Segments -/

theorem digit_le_of_mem_segment {directory : String} {c : Char}
    (h : c ∈ (segmentOfDirectory directory).toList) : '0'.toNat ≤ c.toNat := by
  unfold segmentOfDirectory at h
  rw [String.toList_ofList] at h
  obtain ⟨letter, hletter, hform⟩ := List.mem_flatMap.mp h
  have halphanumeric := (List.mem_filter.mp hletter).2
  exact Text.digit_le_of_mem_toLowercase (Text.digit_le_of_isAlphanumeric halphanumeric) hform

theorem segmentOfDirectory_eq_empty_iff (directory : String) :
    segmentOfDirectory directory = "" ↔
      ∀ c ∈ directory.toList, Text.isAlphanumeric c = false := by
  unfold segmentOfDirectory
  rw [← String.toList_inj, String.toList_ofList, String.toList_empty, List.flatMap_eq_nil_iff]
  constructor
  · intro h c hc
    by_contra halphanumeric
    have hmem := List.mem_filter.mpr ⟨hc, Bool.eq_true_of_not_eq_false halphanumeric⟩
    exact Text.toLowercase_ne_nil c (h c hmem)
  · intro h c hc
    obtain ⟨hmem, halphanumeric⟩ := List.mem_filter.mp hc
    rw [h c hmem] at halphanumeric
    cases halphanumeric

def packageBelow (package directory : String) : String :=
  package ++ "." ++ segmentOfDirectory directory

theorem fields_packageBelow (package directory : String) :
    Text.fields (· = '.') (packageBelow package directory).toList =
      Text.fields (· = '.') package.toList ++ [(segmentOfDirectory directory).toList] := by
  have hlist : (packageBelow package directory).toList =
      package.toList ++ '.' :: (segmentOfDirectory directory).toList := by
    simp [packageBelow, String.toList_append]
  have hdots : ∀ c ∈ (segmentOfDirectory directory).toList, decide (c = '.') = false := by
    intro c hc
    have hdigit := digit_le_of_mem_segment hc
    refine decide_eq_false ?_
    rintro rfl
    exact absurd hdigit (by decide)
  rw [hlist, Text.fields_append_cons _ _ (decide_eq_true rfl), Text.fields_eq_singleton hdots]

theorem empty_mem_fields_packageBelow (package directory : String) :
    [] ∈ Text.fields (· = '.') (packageBelow package directory).toList ↔
      [] ∈ Text.fields (· = '.') package.toList ∨ segmentOfDirectory directory = "" := by
  have hempty : [] = (segmentOfDirectory directory).toList ↔
      segmentOfDirectory directory = "" := by
    rw [eq_comm, String.toList_eq_nil_iff]
  rw [fields_packageBelow, List.mem_append, List.mem_singleton, hempty]

namespace FileEntry

/-! ### What reading a directory answers -/

/-- The child groups of the entries of a directory, when they are read. A directory becomes a group
of a package that no sibling before it has. -/
inductive GroupsOf : String → List (String × String) → List (String × FileEntry) →
    List IconGroup → Prop
  | nil {package : String} {siblings : List (String × String)} : GroupsOf package siblings [] []
  | directory {package name : String} {siblings : List (String × String)}
      {entries others : List (String × FileEntry)} {icons : List IconSource}
      {children groups : List IconGroup}
      (free : siblings.lookup (packageBelow package name) = none)
      (below : GroupsOf (packageBelow package name) [] entries children)
      (rest : GroupsOf package
        (siblings ++ [(packageBelow package name, classOfDirectory name)]) others groups) :
      GroupsOf package siblings ((name, .directory entries) :: others)
        (⟨packageBelow package name, classOfDirectory name, icons, children⟩ :: groups)
  | file {package name : String} {siblings : List (String × String)} {contents : ByteArray}
      {others : List (String × FileEntry)} {groups : List IconGroup}
      (rest : GroupsOf package siblings others groups) :
      GroupsOf package siblings ((name, .file contents) :: others) groups
  | unreadableFile {package name reason : String} {siblings : List (String × String)}
      {others : List (String × FileEntry)} {groups : List IconGroup}
      (rest : GroupsOf package siblings others groups) :
      GroupsOf package siblings ((name, .unreadableFile reason) :: others) groups

theorem groupsOf_of_readEntries {path package : String} {siblings : List (String × String)}
    {entries : List (String × FileEntry)} {icons : List IconSource} {groups : List IconGroup}
    (h : readEntries path package siblings entries = .ok (icons, groups)) :
    GroupsOf package siblings entries groups := by
  induction path, package, siblings, entries using readEntries.induct
    generalizing icons groups with
  | case1 path package siblings =>
    rw [readEntries, Except.ok.injEq, Prod.mk.injEq] at h
    obtain ⟨-, rfl⟩ := h
    exact .nil
  | case2 path package siblings name others entryPath childPackage childClass entries =>
    rename_i below rest
    rw [readEntries] at h
    simp only [bind_eq_ok_iff, pure_eq_ok_iff, Prod.mk.injEq] at h
    obtain ⟨checked, hshared, ⟨inner, children⟩, hbelow, ⟨otherIcons, otherGroups⟩, hrest, -,
      rfl⟩ := h
    refine .directory ?_ (below hbelow) (rest hrest)
    cases hlookup : siblings.lookup (packageBelow package name) with
    | none => rfl
    | some className =>
      unfold packageBelow at hlookup
      rw [hlookup] at hshared
      cases hshared
  | case3 path package siblings name others reason =>
    rw [readEntries] at h
    simp only [bind_eq_ok_iff] at h
    obtain ⟨checked, -, herror⟩ := h
    cases herror
  | case4 path package siblings name others contents stem hstem rest =>
    rw [readEntries] at h
    simp only [hstem, bind_eq_ok_iff, pure_eq_ok_iff, Prod.mk.injEq] at h
    obtain ⟨icon, -, ⟨otherIcons, otherGroups⟩, hrest, -, rfl⟩ := h
    exact .file (rest hrest)
  | case5 path package siblings name others contents hother rest =>
    rw [readEntries] at h
    split at h
    · next stem hstem => exact absurd hstem (hother stem)
    · exact .file (rest h)
  | case6 path package siblings name others reason stem hstem =>
    rw [readEntries] at h
    simp only [hstem] at h
    cases h
  | case7 path package siblings name others reason hother rest =>
    rw [readEntries] at h
    split at h
    · next stem hstem => exact absurd hstem (hother stem)
    · exact .unreadableFile (rest h)

/-! ### Packages of child groups -/

section

variable {package : String} {siblings : List (String × String)}
  {entries : List (String × FileEntry)} {groups : List IconGroup}

theorem GroupsOf.exists_package (h : GroupsOf package siblings entries groups) :
    ∀ group ∈ groups, ∃ name, group.package = packageBelow package name := by
  induction h with
  | nil => simp
  | directory free below rest ihBelow ihRest =>
    exact List.forall_mem_cons.mpr ⟨⟨_, rfl⟩, ihRest⟩
  | file rest ih => exact ih
  | unreadableFile rest ih => exact ih

theorem GroupsOf.package_notMem (h : GroupsOf package siblings entries groups) :
    ∀ group ∈ groups, group.package ∉ siblings.map Prod.fst := by
  induction h with
  | nil => simp
  | directory free below rest ihBelow ihRest =>
    refine List.forall_mem_cons.mpr ⟨?_, ?_⟩
    · intro hmem
      exact lookup_ne_none hmem free
    · intro group hgroup hmem
      refine ihRest group hgroup ?_
      rw [List.map_append]
      exact List.mem_append_left _ hmem
  | file rest ih => exact ih
  | unreadableFile rest ih => exact ih

theorem GroupsOf.packages_nodup (h : GroupsOf package siblings entries groups) :
    (groups.map IconGroup.package).Nodup := by
  induction h with
  | nil => exact List.nodup_nil
  | directory free below rest ihBelow ihRest =>
    refine List.nodup_cons.mpr ⟨?_, ihRest⟩
    intro hmem
    obtain ⟨group, hgroup, heq⟩ := List.mem_map.mp hmem
    refine rest.package_notMem group hgroup ?_
    rw [heq, List.map_append]
    exact List.mem_append_right _ List.mem_cons_self
  | file rest ih => exact ih
  | unreadableFile rest ih => exact ih

/-- A group whose child groups are read from entries adds segments that are free of slashes. -/
theorem GroupsOf.isSegmented_of_below {className : String} {icons : List IconSource}
    (h : GroupsOf package siblings entries groups)
    (hbelow : ∀ group ∈ groups, group.IsSegmented) :
    IconGroup.IsSegmented ⟨package, className, icons, groups⟩ := by
  refine .intro ?_ h.packages_nodup hbelow
  intro child hchild
  obtain ⟨name, hpackage⟩ := h.exists_package child hchild
  refine ⟨(segmentOfDirectory name).toList, ?_, ?_⟩
  · intro hslash
    exact absurd (digit_le_of_mem_segment hslash) (by decide)
  · unfold IconGroup.segments
    rw [hpackage, fields_packageBelow]

theorem GroupsOf.isSegmented (h : GroupsOf package siblings entries groups) :
    ∀ group ∈ groups, group.IsSegmented := by
  induction h with
  | nil => simp
  | directory free below rest ihBelow ihRest =>
    exact List.forall_mem_cons.mpr ⟨below.isSegmented_of_below ihBelow, ihRest⟩
  | file rest ih => exact ih
  | unreadableFile rest ih => exact ih

end

/-! ### Names of directories -/

mutual

/-- The name of an entry, if it is a directory, with those of the directories below it. -/
def namesWithin (name : String) : FileEntry → List String
  | directory entries => name :: directoryNamesOf entries
  | file _ => []
  | unreadableFile _ => []
  | unreadableDirectory _ => []

/-- The names of the directories among some entries and below them. -/
def directoryNamesOf : List (String × FileEntry) → List String
  | [] => []
  | (name, entry) :: others => namesWithin name entry ++ directoryNamesOf others

end

/-- The names of the directories below an entry, at any depth. -/
def directoryNames : FileEntry → List String
  | directory entries => directoryNamesOf entries
  | file _ => []
  | unreadableFile _ => []
  | unreadableDirectory _ => []

theorem directoryNamesOf_eq_flatMap (entries : List (String × FileEntry)) :
    directoryNamesOf entries = entries.flatMap fun entry => namesWithin entry.1 entry.2 := by
  induction entries with
  | nil => rfl
  | cons entry others ih => rw [directoryNamesOf, ih, List.flatMap_cons]

mutual

theorem namesWithin_sorted (name : String) (entry : FileEntry) :
    (namesWithin name entry.sorted).Perm (namesWithin name entry) := by
  match entry with
  | directory entries =>
    rw [sorted, namesWithin, namesWithin, List.perm_cons, directoryNamesOf_eq_flatMap]
    refine ((List.mergeSort_perm _ _).flatMap_right _).trans ?_
    rw [← directoryNamesOf_eq_flatMap]
    exact directoryNamesOf_sortedEach entries
  | file contents => rw [sorted]
  | unreadableFile reason => rw [sorted]
  | unreadableDirectory reason => rw [sorted]

theorem directoryNamesOf_sortedEach (entries : List (String × FileEntry)) :
    (directoryNamesOf (sortedEach entries)).Perm (directoryNamesOf entries) := by
  match entries with
  | [] => rw [sortedEach]
  | (name, entry) :: others =>
    rw [sortedEach, directoryNamesOf, directoryNamesOf]
    exact (namesWithin_sorted name entry).append (directoryNamesOf_sortedEach others)

end

/-- A directory has the same directories below it in whatever order its entries are listed. -/
theorem directoryNames_sorted (entry : FileEntry) :
    entry.sorted.directoryNames.Perm entry.directoryNames := by
  cases entry with
  | directory entries =>
    have hperm := namesWithin_sorted "" (directory entries)
    rw [sorted, namesWithin, namesWithin, List.perm_cons] at hperm
    rw [sorted]
    exact hperm
  | file contents => rw [sorted]
  | unreadableFile reason => rw [sorted]
  | unreadableDirectory reason => rw [sorted]

/-- The packages below a package have empty segments only for directories with empty segments. -/
theorem GroupsOf.no_empty_segment_iff {package : String} {siblings : List (String × String)}
    {entries : List (String × FileEntry)} {groups : List IconGroup}
    (h : GroupsOf package siblings entries groups)
    (hpackage : [] ∉ Text.fields (· = '.') package.toList) :
    (∀ group ∈ IconGroup.inOrders groups, [] ∉ group.segments) ↔
      ∀ name ∈ directoryNamesOf entries, segmentOfDirectory name ≠ "" := by
  induction h with
  | nil => simp [IconGroup.inOrders, directoryNamesOf]
  | @directory package name siblings entries others icons children groups free below rest
      ihBelow ihRest =>
    have hown : [] ∉ Text.fields (· = '.') (packageBelow package name).toList ↔
        segmentOfDirectory name ≠ "" := by
      rw [empty_mem_fields_packageBelow, not_or, and_iff_right hpackage]
    rw [IconGroup.inOrders, IconGroup.inOrder, directoryNamesOf, namesWithin,
      List.forall_mem_append, List.forall_mem_append, List.forall_mem_append,
      List.forall_mem_singleton, List.forall_mem_cons, ihRest hpackage]
    unfold IconGroup.segments
    rw [hown]
    by_cases hname : segmentOfDirectory name = ""
    · simp [hname]
    · have hbelow := ihBelow (hown.mpr hname)
      unfold IconGroup.segments at hbelow
      rw [hbelow]
      exact and_congr and_comm Iff.rfl
  | file rest ih => exact ih hpackage
  | unreadableFile rest ih => exact ih hpackage

/-! ### Packages and directories -/

theorem readGroup_ok {path package className : String} {entry : FileEntry} {root : IconGroup}
    (h : entry.readGroup path package className = .ok root) :
    ∃ entries icons children, entry.sorted = .directory entries ∧
      GroupsOf package [] entries children ∧ root = ⟨package, className, icons, children⟩ := by
  unfold readGroup at h
  cases hsorted : entry.sorted with
  | directory entries =>
    rw [hsorted] at h
    simp only [bind_eq_ok_iff, pure_eq_ok_iff] at h
    obtain ⟨⟨icons, children⟩, hread, rfl⟩ := h
    exact ⟨entries, icons, children, rfl, groupsOf_of_readEntries hread, rfl⟩
  | file contents =>
    rw [hsorted] at h
    cases h
  | unreadableFile reason =>
    rw [hsorted] at h
    cases h
  | unreadableDirectory reason =>
    rw [hsorted] at h
    cases h

/-- Every directory below an entry has a letter or a number in its name. -/
def NamesDirectories (entry : FileEntry) : Prop :=
  ∀ name ∈ entry.directoryNames, ∃ c ∈ name.toList, Text.isAlphanumeric c = true

instance (entry : FileEntry) : Decidable entry.NamesDirectories :=
  inferInstanceAs (Decidable (∀ name ∈ entry.directoryNames,
    ∃ c ∈ name.toList, Text.isAlphanumeric c = true))

theorem namesDirectories_iff (entry : FileEntry) :
    entry.NamesDirectories ↔ ∀ name ∈ entry.directoryNames, segmentOfDirectory name ≠ "" := by
  unfold NamesDirectories
  refine forall₂_congr ?_
  intro name hname
  rw [ne_eq, segmentOfDirectory_eq_empty_iff]
  simp

/-- No two groups of a directory tree have the same package. They have directories of their own,
as words and as locations below any target, if and only if every directory of the tree has a letter
or a number in its name. -/
theorem readGroup_directories {path package className : String} {entry : FileEntry}
    {root : IconGroup} (hpackage : [] ∉ Text.fields (· = '.') package.toList)
    (h : entry.readGroup path package className = .ok root) :
    (root.inOrder.map IconGroup.package).Nodup ∧
      ((root.inOrder.map IconGroup.words).Nodup ↔ entry.NamesDirectories) ∧
        ∀ target,
          (root.inOrder.map (IconGroup.directory target)).Nodup ↔ entry.NamesDirectories := by
  obtain ⟨entries, icons, children, hsorted, hgroups, rfl⟩ := readGroup_ok h
  have hsegmented : IconGroup.IsSegmented ⟨package, className, icons, children⟩ :=
    hgroups.isSegmented_of_below hgroups.isSegmented
  have hnames : (∀ group ∈ IconGroup.inOrder ⟨package, className, icons, children⟩,
      [] ∉ group.segments) ↔ entry.NamesDirectories := by
    have hperm := entry.directoryNames_sorted
    rw [hsorted] at hperm
    have hbelow := hgroups.no_empty_segment_iff hpackage
    have hroot : [] ∉ IconGroup.segments ⟨package, className, icons, children⟩ := hpackage
    rw [IconGroup.inOrder, List.forall_mem_append, List.forall_mem_singleton, hbelow,
      and_iff_left hroot, namesDirectories_iff]
    refine forall_congr' ?_
    intro name
    rw [← hperm.mem_iff]
    rfl
  refine ⟨hsegmented.packages_nodup, ?_, ?_⟩
  · rw [hsegmented.words_nodup_iff hpackage, hnames]
  · intro target
    rw [hsegmented.directories_nodup_iff hpackage target, hnames]

/-- A tree with two directories that are named alike, at different depths. -/
def toolWindows : FileEntry :=
  .directory [("tool-window", .directory [("Actions", .directory [])]), ("actions", .directory [])]

/-- Each of the two directories has a package and a directory of its own. -/
theorem toolWindows_directories :
    ∃ root, toolWindows.readGroup "icons" "org.icons" "Icons" = .ok root ∧
      root.inOrder.map IconGroup.package =
        ["org.icons.actions", "org.icons.toolwindow.actions", "org.icons.toolwindow",
          "org.icons"] ∧
        (root.inOrder.map (IconGroup.directory "out")).Nodup := by
  have hsegments : segmentOfDirectory "actions" = "actions" ∧
      segmentOfDirectory "Actions" = "actions" ∧
        segmentOfDirectory "tool-window" = "toolwindow" := by
    decide +kernel
  have hread : toolWindows.readGroup "icons" "org.icons" "Icons" =
      .ok ⟨"org.icons", "Icons", [],
        [⟨"org.icons.actions", classOfDirectory "actions", [], []⟩,
          ⟨"org.icons.toolwindow", classOfDirectory "tool-window", [],
            [⟨"org.icons.toolwindow.actions", classOfDirectory "Actions", [], []⟩]⟩]⟩ := by
    simp [toolWindows, readGroup, sorted, sortedEach, List.mergeSort, readEntries, hsegments]
  have hnames : toolWindows.NamesDirectories := by
    have hlist : toolWindows.directoryNames = ["tool-window", "Actions", "actions"] := rfl
    rw [namesDirectories_iff, hlist]
    simp [hsegments]
  obtain ⟨-, -, hdirectories⟩ := readGroup_directories (by decide) hread
  exact ⟨_, hread, rfl, (hdirectories "out").mpr hnames⟩

/-- A directory without a letter or a number in its name. -/
def dashes : FileEntry := .directory [("---", .directory [])]

/-- The group of the directory and the one above it have different packages but the same directory,
so the collection of the one is written over that of the other. -/
theorem dashes_directories_not_nodup :
    [] ∉ Text.fields (· = '.') "icons".toList ∧
      ∃ root, dashes.readGroup "icons" "icons" "Icons" = .ok root ∧
        root.inOrder.map IconGroup.package = ["icons.", "icons"] ∧
          root.inOrder.map (fun group => SourceFile.packageDirectory group.package) =
            ["icons", "icons"] ∧
            ¬ (root.inOrder.map IconGroup.words).Nodup ∧
              ¬ (root.inOrder.map (IconGroup.directory "out")).Nodup := by
  have hnames : segmentOfDirectory "---" = "" ∧ classOfDirectory "---" = "" := by decide +kernel
  have hread : dashes.readGroup "icons" "icons" "Icons" =
      .ok ⟨"icons", "Icons", [], [⟨"icons.", "", [], []⟩]⟩ := by
    simp [dashes, readGroup, sorted, sortedEach, readEntries, hnames]
  refine ⟨by decide, _, hread, rfl, by decide, by decide, by decide⟩

end FileEntry
end IconForge
