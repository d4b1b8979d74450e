import IconForge.Proofs.Generation.Paths

/-!
# Directories of a tree of groups

In a segmented tree every group below another one adds a segment to its package, and siblings have
different packages. Then all groups of the tree have different packages
(`IsSegmented.packages_nodup`), since the package of a group begins with those of all groups above
it. Their directories are different if and only if no segment is empty
(`IsSegmented.directories_nodup_iff`): a child whose segment is empty has the directory of its
parent.
-/

namespace IconForge
namespace IconGroup

/-- The segments of the package of a group, with the empty ones. -/
def segments (group : IconGroup) : List (List Char) := Text.fields (· = '.') group.package.toList

/-- The segments of the package that make up the directory of a group. -/
def words (group : IconGroup) : List (List Char) := Text.words (· = '.') group.package.toList

/-- A tree in which each group adds a segment to the package above it, and no two children of a
group have the same package. -/
inductive IsSegmented : IconGroup → Prop
  | intro {group : IconGroup}
      (segment : ∀ child ∈ group.children, ∃ name : List Char,
        '/' ∉ name ∧ child.segments = group.segments ++ [name])
      (packages : (group.children.map package).Nodup)
      (below : ∀ child ∈ group.children, child.IsSegmented) : group.IsSegmented

variable {root group first second : IconGroup}

theorem segments_inj : first.segments = second.segments ↔ first.package = second.package := by
  constructor
  · intro h
    exact String.toList_injective (Text.fields_injective h)
  · intro h
    unfold segments
    rw [h]

/-! ### The groups of a tree -/

theorem inOrders_eq_flatMap (groups : List IconGroup) :
    inOrders groups = groups.flatMap inOrder := by
  induction groups with
  | nil => rfl
  | cons group others ih => rw [inOrders, ih, List.flatMap_cons]

theorem inOrder_eq (group : IconGroup) :
    group.inOrder = group.children.flatMap inOrder ++ [group] := by
  obtain ⟨package, className, icons, children⟩ := group
  rw [inOrder, inOrders_eq_flatMap]

theorem mem_inOrder : group ∈ root.inOrder ↔
    group = root ∨ ∃ child ∈ root.children, group ∈ child.inOrder := by
  rw [inOrder_eq, List.mem_append, List.mem_flatMap, List.mem_singleton, or_comm]

/-- Below the root, a package has the segments of the root and then others. -/
theorem IsSegmented.exists_names (h : root.IsSegmented) :
    ∀ group ∈ root.inOrder, ∃ names : List (List Char),
      (∀ name ∈ names, '/' ∉ name) ∧ group.segments = root.segments ++ names := by
  induction h with
  | @intro root segment packages below ih =>
    intro group hmem
    rcases mem_inOrder.mp hmem with rfl | ⟨child, hchild, hin⟩
    · exact ⟨[], by simp, (List.append_nil _).symm⟩
    · obtain ⟨name, hname, hsegments⟩ := segment child hchild
      obtain ⟨names, hnames, hgroup⟩ := ih child hchild group hin
      refine ⟨name :: names, List.forall_mem_cons.mpr ⟨hname, hnames⟩, ?_⟩
      rw [hgroup, hsegments, List.append_assoc, List.singleton_append]

theorem IsSegmented.prefix_segments (h : root.IsSegmented) (hmem : group ∈ root.inOrder) :
    root.segments <+: group.segments := by
  obtain ⟨names, -, hsegments⟩ := h.exists_names group hmem
  exact ⟨names, hsegments.symm⟩

/-! ### Packages -/

theorem IsSegmented.packages_nodup (h : root.IsSegmented) : (root.inOrder.map package).Nodup := by
  induction h with
  | @intro root segment packages below ih =>
    have hlength : ∀ child ∈ root.children,
        child.segments.length = root.segments.length + 1 := by
      intro child hchild
      obtain ⟨name, -, hsegments⟩ := segment child hchild
      rw [hsegments, List.length_append, List.length_singleton]
    rw [inOrder_eq, List.map_append, List.map_flatMap, List.nodup_append']
    refine ⟨List.nodup_flatMap.mpr ⟨ih, ?_⟩, List.nodup_singleton _, ?_⟩
    · refine (List.pairwise_map.mp packages).imp_of_mem ?_
      intro first second hfirst hsecond hne path hpath hpath'
      obtain ⟨group, hgroup, rfl⟩ := List.mem_map.mp hpath
      obtain ⟨group', hgroup', heq⟩ := List.mem_map.mp hpath'
      have hprefix := (below first hfirst).prefix_segments hgroup
      have hprefix' := (below second hsecond).prefix_segments hgroup'
      rw [segments_inj.mpr heq] at hprefix'
      have hsame : first.segments.length = second.segments.length := by
        rw [hlength first hfirst, hlength second hsecond]
      have hsegments : first.segments = second.segments :=
        (List.prefix_of_prefix_length_le hprefix hprefix' hsame.le).eq_of_length hsame
      exact hne (segments_inj.mp hsegments)
    · intro path hpath hroot
      obtain ⟨child, hchild, hin⟩ := List.mem_flatMap.mp hpath
      obtain ⟨group, hgroup, rfl⟩ := List.mem_map.mp hin
      have hpackage : group.package = root.package := List.mem_singleton.mp hroot
      have hshorter := ((below child hchild).prefix_segments hgroup).length_le
      rw [hlength child hchild, segments_inj.mpr hpackage] at hshorter
      omega

/-! ### Directories -/

/-- The directory of a group is that of the root and, below it, the words that the package of the
group has after those of the root. -/
theorem IsSegmented.exists_directory_eq (h : root.IsSegmented) (hmem : group ∈ root.inOrder)
    (target : String) :
    ∃ names : List (List Char), group.words = root.words ++ names ∧
      group.directory target =
        ⟨(root.directory target).isAbsolute,
          (root.directory target).parts ++ names.map String.ofList⟩ := by
  obtain ⟨names, hnames, hsegments⟩ := h.exists_names group hmem
  have hwords : group.words = root.words ++ names.filter (· ≠ []) := by
    change group.segments.filter (· ≠ []) = root.segments.filter (· ≠ []) ++ _
    rw [hsegments, List.filter_append]
  have hentries : ∀ name ∈ (names.filter (· ≠ [])).map String.ofList,
      FilePath.IsEntryName name := by
    intro name hname
    obtain ⟨chars, hchars, rfl⟩ := List.mem_map.mp hname
    obtain ⟨hin, hne⟩ := List.mem_filter.mp hchars
    have hfield : chars ∈ group.segments := by
      rw [hsegments]
      exact List.mem_append_right _ hin
    exact SourceFile.isEntryName_of_mem_fields hfield (of_decide_eq_true hne) (hnames chars hin)
  have hpackage : SourceFile.packageDirectory group.package =
      ((names.filter (· ≠ [])).map String.ofList).foldl FilePath.push
        (SourceFile.packageDirectory root.package) := by
    change (group.words.map String.ofList).foldl FilePath.push "" =
      List.foldl FilePath.push ((root.words.map String.ofList).foldl FilePath.push "") _
    rw [hwords, List.map_append, List.foldl_append]
  refine ⟨names.filter (· ≠ []), hwords, ?_⟩
  unfold directory
  rw [hpackage, FilePath.location_push_foldl target _ hentries]

/-- In a tree, directories are the same exactly if they are made of the same words. -/
theorem IsSegmented.directory_eq_iff (h : root.IsSegmented) (hfirst : first ∈ root.inOrder)
    (hsecond : second ∈ root.inOrder) (target : String) :
    first.directory target = second.directory target ↔ first.words = second.words := by
  obtain ⟨names, hwords, hdirectory⟩ := h.exists_directory_eq hfirst target
  obtain ⟨names', hwords', hdirectory'⟩ := h.exists_directory_eq hsecond target
  rw [hwords, hwords', hdirectory, hdirectory', FilePath.Location.mk.injEq,
    List.append_cancel_left_eq, List.append_cancel_left_eq]
  constructor
  · intro heq
    exact List.map_injective_iff.mpr (fun _ _ => String.ofList_injective) heq.2
  · intro heq
    rw [heq]
    exact ⟨rfl, rfl⟩

/-- Where a package has an empty segment, there is a group whose child has that segment only to
add. -/
theorem IsSegmented.exists_empty_segment (h : root.IsSegmented) (hroot : [] ∉ root.segments) :
    ∀ group ∈ root.inOrder, [] ∈ group.segments →
      ∃ parent ∈ root.inOrder, ∃ child ∈ root.inOrder,
        child.segments = parent.segments ++ [[]] := by
  induction h with
  | @intro root segment packages below ih =>
    intro group hmem hempty
    rcases mem_inOrder.mp hmem with rfl | ⟨child, hchild, hin⟩
    · exact absurd hempty hroot
    have hself : root ∈ root.inOrder := mem_inOrder.mpr (.inl rfl)
    have hlift {inner : IconGroup} (hinner : inner ∈ child.inOrder) : inner ∈ root.inOrder :=
      mem_inOrder.mpr (.inr ⟨child, hchild, hinner⟩)
    obtain ⟨name, -, hsegments⟩ := segment child hchild
    by_cases hname : name = []
    · subst hname
      exact ⟨root, hself, child, hlift (mem_inOrder.mpr (.inl rfl)), hsegments⟩
    · have hchildSegments : [] ∉ child.segments := by
        rw [hsegments, List.mem_append, List.mem_singleton, not_or]
        exact ⟨hroot, Ne.symm hname⟩
      obtain ⟨parent, hparent, inner, hinner, heq⟩ :=
        ih child hchild hchildSegments group hin hempty
      exact ⟨parent, hlift hparent, inner, hlift hinner, heq⟩

theorem IsSegmented.words_nodup_iff (h : root.IsSegmented) (hroot : [] ∉ root.segments) :
    (root.inOrder.map words).Nodup ↔ ∀ group ∈ root.inOrder, [] ∉ group.segments := by
  constructor
  · intro hnodup group hgroup hempty
    obtain ⟨parent, hparent, child, hchild, hsegments⟩ :=
      h.exists_empty_segment hroot group hgroup hempty
    have hwords : child.words = parent.words := by
      change child.segments.filter (· ≠ []) = parent.segments.filter (· ≠ [])
      rw [hsegments, List.filter_append]
      exact List.append_nil _
    have hsame : child = parent := List.inj_on_of_nodup_map hnodup hchild hparent hwords
    rw [hsame] at hsegments
    have hlength := congrArg List.length hsegments
    rw [List.length_append, List.length_singleton] at hlength
    omega
  · intro hplain
    have hpackages := h.packages_nodup
    rw [List.Nodup, List.pairwise_map] at hpackages ⊢
    refine hpackages.imp_of_mem ?_
    intro first second hfirst hsecond hne heq
    have hwords : ∀ group ∈ root.inOrder, group.words = group.segments := by
      intro group hgroup
      refine List.filter_eq_self.mpr ?_
      intro segment hsegment
      simpa using ne_of_mem_of_not_mem hsegment (hplain group hgroup)
    rw [hwords first hfirst, hwords second hsecond] at heq
    exact hne (segments_inj.mp heq)

/-- The groups of a segmented tree have directories of their own, below any target, if and only if
their packages have no empty segments. -/
theorem IsSegmented.directories_nodup_iff (h : root.IsSegmented) (hroot : [] ∉ root.segments)
    (target : String) :
    (root.inOrder.map (directory target)).Nodup ↔
      ∀ group ∈ root.inOrder, [] ∉ group.segments := by
  rw [← h.words_nodup_iff hroot, List.Nodup, List.Nodup, List.pairwise_map, List.pairwise_map]
  refine List.Pairwise.iff_of_mem ?_
  intro first second hfirst hsecond
  exact not_congr (h.directory_eq_iff hfirst hsecond target)

end IconGroup
end IconForge
