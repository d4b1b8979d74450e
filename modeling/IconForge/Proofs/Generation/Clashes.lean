import IconForge.Proofs.Generation.Collections
import IconForge.Proofs.Generation.UsedNames
import IconForge.Proofs.Imports.Blocked

/-!
# Clashes of names in collections

The icon that is named like the class of its group gets an alias when its turn comes, and the names
of the icons after it are not taken yet. So the alias may be a name that a later icon wants, and
then the collection is not built although another alias would do. Apart from that it is built unless
the names that users have chosen clash themselves (`build_error_iff`).
-/

namespace IconForge
namespace GroupCollection

open ImportTable (IsFreeAlias authorMarker padded)

variable {container : Symbol} {icons children : List Symbol} {table : ImportTable}
  {collection slot own first : String} {taken names : List String}

/-! ### The alias of the icon named like the container -/

/-- Of icons that are taken in an order, one has a name of its own, and a later one is named like
the alias that this one gets. -/
def MeetsAlias (own : String) (taken names : List String) : Prop :=
  ∃ before after, names = before ++ own :: after ∧
    ∃ name ∈ after, IsFreeAlias (before ++ taken) (authorMarker ++ own) name

theorem MeetsAlias.congr {taken' : List String} (h : ∀ name, name ∈ taken ↔ name ∈ taken') :
    MeetsAlias own taken names ↔ MeetsAlias own taken' names := by
  have hsame (before : List String) (name : String) :
      name ∈ before ++ taken ↔ name ∈ before ++ taken' := by
    simp [h]
  simp only [MeetsAlias, IsFreeAlias.congr (hsame _)]

theorem not_meetsAlias_of_notMem (h : own ∉ names) : ¬ MeetsAlias own taken names := by
  rintro ⟨before, after, rfl, -⟩
  simp at h

theorem meetsAlias_cons_self (hown : own ∉ names) :
    MeetsAlias own taken (own :: names) ↔
      ∃ name ∈ names, IsFreeAlias taken (authorMarker ++ own) name := by
  constructor
  · rintro ⟨before, after, hnames, name, hname, hfree⟩
    cases before with
    | nil =>
      cases hnames
      exact ⟨name, hname, hfree⟩
    | cons head before =>
      rw [List.cons_append, List.cons.injEq] at hnames
      exact absurd (by simp [hnames.2]) hown
  · rintro ⟨name, hname, hfree⟩
    exact ⟨[], names, rfl, name, hname, hfree⟩

theorem meetsAlias_cons_of_ne {taken' : List String} (hne : first ≠ own)
    (htaken : ∀ name, name ∈ taken' ↔ name = first ∨ name ∈ taken) :
    MeetsAlias own taken (first :: names) ↔ MeetsAlias own taken' names := by
  have hsame (before : List String) (name : String) :
      name ∈ first :: before ++ taken ↔ name ∈ before ++ taken' := by
    simp [htaken, or_left_comm]
  constructor
  · rintro ⟨before, after, hnames, name, hname, hfree⟩
    cases before with
    | nil =>
      cases hnames
      exact absurd rfl hne
    | cons head before =>
      rw [List.cons_append, List.cons.injEq] at hnames
      obtain ⟨rfl, hnames⟩ := hnames
      exact ⟨before, after, hnames, name, hname, (IsFreeAlias.congr (hsame before)).mp hfree⟩
  · rintro ⟨before, after, rfl, name, hname, hfree⟩
    exact ⟨first :: before, after, rfl, name, hname, (IsFreeAlias.congr (hsame before)).mpr hfree⟩

/-! ### The names of the icons -/

/-- An alias blocks the icon that is named like it, beside those that were blocked before. -/
theorem exists_blocks_alias {candidate path name : String}
    (hplain : ∀ icon ∈ icons, icon.enclosing = none)
    (hfree : IsFreeAlias table.visibleNames candidate name) :
    (∃ icon ∈ icons,
        { table with aliases := (path, name) :: table.aliases : ImportTable }.Blocks icon) ↔
      (∃ icon ∈ icons, table.Blocks icon) ∨
        ∃ name ∈ icons.map Symbol.name, IsFreeAlias table.visibleNames candidate name := by
  simp only [ImportTable.blocks_alias hfree.notMem]
  constructor
  · rintro ⟨icon, hicon, hsame | hblocks⟩
    · rw [Symbol.importName_of_enclosing (hplain icon hicon)] at hsame
      exact .inr ⟨icon.name, List.mem_map_of_mem hicon, hsame ▸ hfree⟩
    · exact .inl ⟨icon, hicon, hblocks⟩
  · rintro (⟨icon, hicon, hblocks⟩ | ⟨name', hname', hfree'⟩)
    · exact ⟨icon, hicon, .inr hblocks⟩
    · obtain ⟨icon, hicon, rfl⟩ := List.mem_map.mp hname'
      refine ⟨icon, hicon, .inl ?_⟩
      rw [Symbol.importName_of_enclosing (hplain icon hicon), ImportTable.isFreeAlias_iff.mp hfree',
        ImportTable.isFreeAlias_iff.mp hfree]

/-- When an icon has taken its name, it blocks the others that it blocked before. -/
theorem exists_blocks_adopt {grown : ImportTable} {icon : Symbol} (p : Symbol → Prop)
    (hadopt : table.adopt icon = .ok grown)
    (hnames : ∀ other ∈ icons, other.importName ≠ icon.importName) :
    (∃ other ∈ icons, p other ∧ grown.Blocks other) ↔
      ∃ other ∈ icon :: icons, p other ∧ table.Blocks other := by
  have hicon : ¬ table.Blocks icon := by
    rw [← ImportTable.adopt_error_iff, hadopt]
    simp
  rw [List.exists_mem_cons_iff, or_iff_right fun h => hicon h.2]
  exact exists_congr fun other => and_congr_right fun hother =>
    and_congr_right fun _ => ImportTable.blocks_of_adopt hadopt (hnames other hother)

/-- Icons with distinct names are not taken if one of them is blocked, or if one meets the alias of
an earlier one. -/
theorem takeIcons_error_iff {seen : List String} (hplain : ∀ icon ∈ icons, icon.enclosing = none)
    (hnodup : (icons.map Symbol.name).Nodup) (hseen : ∀ icon ∈ icons, icon.name ∉ seen)
    (hfresh : ∀ icon ∈ icons, icon.name = container.name → table.alias? icon.importPath = none) :
    (∃ e, takeIcons container seen icons table = .error e) ↔
      (∃ icon ∈ icons, icon.name ≠ container.name ∧ table.Blocks icon) ∨
        MeetsAlias container.name table.visibleNames (icons.map Symbol.name) := by
  induction icons generalizing seen table with
  | nil => simp [takeIcons, not_meetsAlias_of_notMem]
  | cons icon others ih =>
    simp only [List.forall_mem_cons] at hplain hseen hfresh
    rw [List.map_cons, List.nodup_cons] at hnodup
    have hnames : ∀ other ∈ others, other.name ≠ icon.name := fun other hother heq =>
      hnodup.1 (heq ▸ List.mem_map_of_mem hother)
    have hseenOthers : ∀ other ∈ others, other.name ∉ icon.name :: seen := fun other hother =>
      List.not_mem_cons_of_ne_of_not_mem (hnames other hother) (hseen.2 other hother)
    have hfirst := Symbol.importName_of_enclosing hplain.1
    rw [takeIcons, if_neg hseen.1, List.map_cons]
    by_cases hname : icon.name = container.name
    · obtain ⟨name, hfree, heq⟩ :=
        ImportTable.assignAlias_of_alias?_eq_none authorMarker (hfresh.1 hname)
      rw [hfirst, hname] at hfree
      rw [hname] at hnodup hnames
      have hfresh' (aliased : ImportTable) : ∀ other ∈ others, other.name = container.name →
          aliased.alias? other.importPath = none :=
        fun other hother h => absurd h (hnames other hother)
      rw [if_pos hname, heq, ih hplain.2 hnodup.2 hseenOthers (hfresh' _), hname,
        meetsAlias_cons_self hnodup.1, or_iff_left (not_meetsAlias_of_notMem hnodup.1)]
      have hothers (blocks : Symbol → Prop) :
          (∃ other ∈ others, other.name ≠ container.name ∧ blocks other) ↔
            ∃ other ∈ others, blocks other :=
        exists_congr fun other => and_congr_right fun hother =>
          and_iff_right (hnames other hother)
      have hicon : ¬ (icon.name ≠ container.name ∧ table.Blocks icon) := fun h => h.1 hname
      rw [hothers, exists_blocks_alias hplain.2 hfree, List.exists_mem_cons_iff,
        or_iff_right hicon, hothers]
    · rw [if_neg hname]
      cases hadopt : table.adopt icon with
      | error e =>
        have hblocks := ImportTable.adopt_error_iff.mp ⟨e, hadopt⟩
        exact iff_of_true ⟨e, rfl⟩ (.inl ⟨icon, List.mem_cons_self, hname, hblocks⟩)
      | ok grown =>
        have htaken (name : String) :
            name ∈ grown.visibleNames ↔ name = icon.name ∨ name ∈ table.visibleNames := by
          rw [ImportTable.mem_visibleNames_of_adopt hadopt, hfirst]
        have hothers : ∀ other ∈ others, other.importName ≠ icon.importName := by
          intro other hother
          rw [Symbol.importName_of_enclosing (hplain.2 other hother), hfirst]
          exact hnames other hother
        have hrest := ih hplain.2 hnodup.2 hseenOthers fun other hother h => by
          rw [ImportTable.alias?_of_adopt hadopt]
          exact hfresh.2 other hother h
        rw [exists_blocks_adopt _ hadopt hothers, ← meetsAlias_cons_of_ne hname htaken] at hrest
        exact hrest

/-! ### Collections that are not built -/

/-- The table of a file that declares a collection and its slot. -/
def declaredNames (package collection slot : String) : ImportTable :=
  ((ImportTable.empty package).own collection .declared).own slot .declared

theorem takenNames_eq (hslot : slot ≠ collection) :
    takenNames container collection slot icons children = do
      let table ← (declaredNames container.package collection slot).adopt container
      let table ← takeIcons container [] icons table
      return children.foldl takeChild table := by
  have hcollection : (ImportTable.empty container.package).declare collection =
      .ok ((ImportTable.empty container.package).own collection .declared) := rfl
  have hdeclared : ((ImportTable.empty container.package).own collection .declared).declare slot =
      .ok (declaredNames container.package collection slot) := by
    have howner : ((ImportTable.empty container.package).own collection .declared).owner? slot =
        none := ImportTable.owner?_own_of_ne hslot
    have hvisible : slot ∉
        ((ImportTable.empty container.package).own collection .declared).visibleNames := by
      simp [hslot]
    simp only [ImportTable.declare, howner, ImportTable.isVisible_iff, hvisible, ↓reduceIte]
    rfl
  simp only [takenNames, hcollection, hdeclared, bind, Except.bind]

theorem mem_visibleNames_declaredNames {package name : String} :
    name ∈ (declaredNames package collection slot).visibleNames ↔
      name = slot ∨ name = collection := by
  simp [declaredNames]

theorem blocks_declaredNames {package : String} {symbol : Symbol} :
    (declaredNames package collection slot).Blocks symbol ↔
      symbol.importName = slot ∨ symbol.importName = collection := by
  rw [ImportTable.Blocks, mem_visibleNames_declaredNames, and_iff_left_iff_imp]
  rintro hname howner
  have hmem := mem_of_lookup howner
  simp [declaredNames, ImportTable.own, ImportTable.empty] at hmem

/-- A clash of names that no alias resolves, for the icons of a container. -/
inductive Unresolvable (container : Symbol) (collection slot : String) (names : List String) : Prop
  | collection (h : container.importName = collection)
  | slot (h : container.importName = slot)
  | duplicate (h : ¬ names.Nodup)
  /-- An icon named like the collection. For a container that is not nested, one that is named like
  the container as well is a case of the first clash. -/
  | icon (h : collection ∈ names) (hne : collection ≠ container.name)

theorem unresolvable_iff (hcontainer : container.enclosing = none) :
    Unresolvable container collection slot names ↔
      container.name = collection ∨ container.name = slot ∨ ¬ names.Nodup ∨ collection ∈ names := by
  have hname := Symbol.importName_of_enclosing hcontainer
  constructor
  · rintro (h | h | h | ⟨h, -⟩)
    · exact .inl (hname ▸ h)
    · exact .inr (.inl (hname ▸ h))
    · exact .inr (.inr (.inl h))
    · exact .inr (.inr (.inr h))
  · rintro (h | h | h | h)
    · exact .collection (hname.trans h)
    · exact .slot (hname.trans h)
    · exact .duplicate h
    · by_cases hne : container.name = collection
      · exact .collection (hname.trans hne)
      · exact .icon h (Ne.symm hne)

/-- With the container and the declarations in the table, only an icon named like the collection is
blocked. -/
theorem exists_blocks_adopted (hadopt :
      (declaredNames container.package collection slot).adopt container = .ok table)
    (hplain : ∀ icon ∈ icons, icon.enclosing = none ∧ icon.package = container.package)
    (hfree : slot ∉ icons.map Symbol.name) (hcontainer : container.importName ≠ collection) :
    (∃ icon ∈ icons, icon.name ≠ container.name ∧ table.Blocks icon) ↔
      collection ∈ icons.map Symbol.name ∧ collection ≠ container.name := by
  have howner := (ImportTable.adopt_ok hadopt).2
  have hblocks : ∀ icon ∈ icons, (table.Blocks icon ↔ icon.name = collection) := by
    intro icon hicon
    obtain ⟨henclosing, hpackage⟩ := hplain icon hicon
    have hname := Symbol.importName_of_enclosing henclosing
    by_cases hsame : icon.importName = container.importName
    · have hpath : icon.importPath = container.importPath := by
        rw [Symbol.importPath, Symbol.importPath, hsame, hpackage]
      have hne : icon.name ≠ collection := hname ▸ hsame ▸ hcontainer
      rw [ImportTable.Blocks, hsame, hpath]
      exact iff_of_false (fun h => h.2 howner) hne
    · have hslot : icon.name ≠ slot := fun h => hfree (h ▸ List.mem_map_of_mem hicon)
      rw [ImportTable.blocks_of_adopt hadopt hsame, blocks_declaredNames, hname, or_iff_right hslot]
  constructor
  · rintro ⟨icon, hicon, hne, hblocked⟩
    have hcollection := (hblocks icon hicon).mp hblocked
    exact ⟨hcollection ▸ List.mem_map_of_mem hicon, hcollection ▸ hne⟩
  · rintro ⟨hmem, hne⟩
    obtain ⟨icon, hicon, rfl⟩ := List.mem_map.mp hmem
    exact ⟨icon, hicon, hne, (hblocks icon hicon).mpr rfl⟩

theorem takenNames_error_iff (hslot : slot ≠ collection)
    (hplain : ∀ icon ∈ icons, icon.enclosing = none ∧ icon.package = container.package)
    (hfree : slot ∉ icons.map Symbol.name) :
    (∃ e, takenNames container collection slot icons children = .error e) ↔
      Unresolvable container collection slot (icons.map Symbol.name) ∨
        MeetsAlias container.name [container.importName, slot, collection]
          (icons.map Symbol.name) := by
  rw [takenNames_eq hslot]
  cases hadopt : (declaredNames container.package collection slot).adopt container with
  | error e =>
    refine iff_of_true ⟨e, rfl⟩ (.inl ?_)
    rcases blocks_declaredNames.mp (ImportTable.adopt_error_iff.mp ⟨e, hadopt⟩) with h | h
    · exact .slot h
    · exact .collection h
  | ok table =>
    have hunblocked : ¬ (declaredNames container.package collection slot).Blocks container := by
      rw [← ImportTable.adopt_error_iff, hadopt]
      simp
    rw [blocks_declaredNames, not_or] at hunblocked
    simp only [bind_eq_error_iff, pure_ne_error, and_false, exists_false, or_false,
      Except.ok.injEq, exists_eq_left', reduceCtorEq, false_or]
    by_cases hnodup : (icons.map Symbol.name).Nodup
    · have hfresh (path : String) : table.alias? path = none := by
        rw [ImportTable.alias?_of_adopt hadopt]
        rfl
      rw [takeIcons_error_iff (fun icon hicon => (hplain icon hicon).1) hnodup (by simp)
        fun icon _ _ => hfresh icon.importPath,
        exists_blocks_adopted hadopt hplain hfree hunblocked.2]
      have htaken (name : String) :
          name ∈ table.visibleNames ↔ name ∈ [container.importName, slot, collection] := by
        rw [ImportTable.mem_visibleNames_of_adopt hadopt, mem_visibleNames_declaredNames]
        simp
      refine or_congr ⟨fun h => .icon h.1 h.2, ?_⟩ (MeetsAlias.congr htaken)
      rintro (h | h | h | ⟨h, hne⟩)
      · exact absurd h hunblocked.2
      · exact absurd h hunblocked.1
      · exact absurd hnodup h
      · exact ⟨h, hne⟩
    · refine iff_of_true ?_ (.inl (.duplicate hnodup))
      cases htaken : takeIcons container [] icons table with
      | error e => exact ⟨e, rfl⟩
      | ok taken => exact absurd (takeIcons_ok htaken).2.1 hnodup

theorem slot_ne_collection (used : UsedNames) (collection : String) :
    (used.allocate (slotStem collection)).1 ≠ collection := by
  intro heq
  have hprefix := (used.prefix_freeName (slotStem collection)).length_le
  rw [show used.freeName (slotStem collection) = collection from heq] at hprefix
  simp [slotStem] at hprefix

/-- A collection whose icons have names in use is not built exactly if names clash that no alias
resolves, or if an icon is named like the alias of an earlier one. The latter cannot be unless an
icon has the name of the container behind the marker of aliases and further underscores; else a
container that is not nested has a collection unless its name is that of the collection or of the
slot, two icons have one name, or an icon is named like the collection. -/
theorem build_error_iff {style : CodeStyle} {used : UsedNames}
    (hplain : ∀ icon ∈ icons, icon.enclosing = none ∧ icon.package = container.package)
    (hreserved : ∀ icon ∈ icons, icon.name ∈ used.names) :
    let slot := (used.allocate (slotStem collection)).1
    let names := icons.map Symbol.name
    let fails := ∃ e, build container collection style icons children used = .error e
    (fails ↔ Unresolvable container collection slot names ∨
      MeetsAlias container.name [container.importName, slot, collection] names) ∧
    (container.enclosing = none →
      (∀ count, padded count (authorMarker ++ container.name) ∉ names) →
        (fails ↔ container.name = collection ∨ container.name = slot ∨ ¬ names.Nodup ∨
          collection ∈ names)) := by
  intro slot names fails
  have hfree : slot ∉ names := by
    intro hmem
    obtain ⟨icon, hicon, hname⟩ := List.mem_map.mp hmem
    have hused := hreserved icon hicon
    rw [hname] at hused
    exact used.freeName_notMem (slotStem collection) hused
  have hfails : fails ↔ ∃ e, takenNames container collection slot icons children = .error e := by
    simp only [fails, build, bind_eq_error_iff, pure_ne_error, and_false, exists_false, or_false,
      slot]
  rw [hfails, takenNames_error_iff (slot_ne_collection used collection) hplain hfree]
  refine ⟨Iff.rfl, fun hcontainer hnames => ?_⟩
  have hmeets : ¬ MeetsAlias container.name [container.importName, slot, collection] names := by
    rintro ⟨before, after, hsplit, name, hname, count, rfl, -⟩
    exact hnames count (by simp [hsplit, hname])
  rw [or_iff_left hmeets]
  exact unresolvable_iff hcontainer

/-- The class of a group with an icon of the same name. -/
def iconsClass : Symbol := .topLevel "icons" "Icons"

/-- Of two icons, one is named like the class and none like an alias. Their collection is built. -/
theorem iconsClass_build :
    let icons := [iconsClass, .topLevel "icons" "Folder"]
    let used := UsedNames.empty.reserveAll ["Icons", "Folder"]
    ∃ built, build iconsClass "AllIcons" .standard icons [] used = .ok built := by
  intro icons used
  have hlength : ∀ name ∈ icons.map Symbol.name, name.length ≤ 6 := by decide
  have hnames (count : Nat) :
      padded count (authorMarker ++ iconsClass.name) ∉ icons.map Symbol.name := by
    intro hmem
    have hshort := hlength _ hmem
    have hlong : (authorMarker ++ iconsClass.name).toList.length = 8 := rfl
    rw [← String.length_toList, ImportTable.toList_padded, List.length_append, hlong] at hshort
    omega
  have hiff := (@build_error_iff iconsClass icons [] "AllIcons" .standard used (by decide)
    (by decide)).2 rfl hnames
  cases hbuild : build iconsClass "AllIcons" .standard icons [] used with
  | ok built => exact ⟨built, rfl⟩
  | error e => exact absurd (hiff.mp ⟨e, hbuild⟩) (by decide +kernel)

/-- Icons with distinct names, none of them named like the collection. The second is named like the
alias that the first gets: the collection is not built, but in the other order it is. -/
theorem lookalike_build_error :
    let icons := [iconsClass, .topLevel "icons" "___Icons"]
    let used := UsedNames.empty.reserveAll ["Icons", "___Icons"]
    (∀ icon ∈ icons, icon.package = "icons" ∧ icon.name ∈ used.names) ∧
      (icons.map Symbol.name).Nodup ∧ "AllIcons" ∉ icons.map Symbol.name ∧
      iconsClass.name ≠ "AllIcons" ∧
      iconsClass.name ≠ (used.allocate (slotStem "AllIcons")).1 ∧
      (∃ built, build iconsClass "AllIcons" .standard icons.reverse [] used = .ok built) ∧
      build iconsClass "AllIcons" .standard icons [] used =
        .error ⟨"___Icons", .usedAsAlias⟩ := by
  refine ⟨by decide, by decide, by decide, by decide, by decide +kernel, ?_, by decide +kernel⟩
  exact exists_eq_ok_of_toBool (by decide +kernel)

end GroupCollection
end IconForge
