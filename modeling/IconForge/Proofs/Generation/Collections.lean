import IconForge.Generation.Collection
import IconForge.Proofs.Imports.Growth
import IconForge.Proofs.Results

/-!
# Collections that are built

The file of a collection lies in the package of its group under the name of the collection. If it is
built, the names of the icons are distinct from each other and from that of the collection, which is
not the name of the class of the group either.
-/

namespace IconForge

namespace GroupCollection

open ImportTable (Extends)

variable {container : Symbol} {icons children : List Symbol} {table taken : ImportTable}

/-- The icons that are taken have names of their own: each belongs to its icon, except for that of
the container. -/
theorem takeIcons_ok {seen : List String} (h : takeIcons container seen icons table = .ok taken) :
    table.Extends taken ∧ (icons.map Symbol.name).Nodup ∧
      ∀ icon ∈ icons, icon.name ∉ seen ∧
        (icon.name = container.name ∨
          taken.owner? icon.importName = some (.imported icon.importPath)) := by
  induction icons generalizing seen table with
  | nil =>
    cases h
    simp [Extends.refl]
  | cons icon others ih =>
    rw [takeIcons] at h
    split at h
    · cases h
    next hseen =>
    have hnext : ∃ next, takeIcons container (icon.name :: seen) others next = .ok taken ∧
        table.Extends next ∧ (icon.name = container.name ∨
          next.owner? icon.importName = some (.imported icon.importPath)) := by
      split at h
      · next hname =>
        exact ⟨_, h, table.assignAlias_extends icon _, .inl hname⟩
      · obtain ⟨next, hadopt, hothers⟩ := bind_eq_ok_iff.mp h
        obtain ⟨hgrow, howner⟩ := ImportTable.adopt_ok hadopt
        exact ⟨next, hothers, hgrow.extends, .inr howner⟩
    obtain ⟨next, hothers, hextends, hplace⟩ := hnext
    obtain ⟨hgrown, hnodup, hall⟩ := ih hothers
    have hfirst : icon.name ∉ others.map Symbol.name := by
      intro hmem
      obtain ⟨other, hother, hname⟩ := List.mem_map.mp hmem
      exact (hall other hother).1 (hname ▸ List.mem_cons_self)
    refine ⟨hextends.trans hgrown, List.nodup_cons.mpr ⟨hfirst, hnodup⟩, ?_⟩
    refine List.forall_mem_cons.mpr ⟨⟨hseen, hplace.imp_right hgrown.owner?⟩, ?_⟩
    intro other hother
    obtain ⟨hfresh, howned⟩ := hall other hother
    exact ⟨fun hmem => hfresh (List.mem_cons_of_mem icon.name hmem), howned⟩

theorem takeChild_extends (table : ImportTable) (child : Symbol) :
    table.Extends (takeChild table child) := by
  unfold takeChild
  split
  · next adopted hadopt => exact (ImportTable.adopt_ok hadopt).1.extends
  · exact table.assignAlias_extends child _

theorem takeChildren_extends (table : ImportTable) (children : List Symbol) :
    table.Extends (children.foldl takeChild table) := by
  induction children generalizing table with
  | nil => exact Extends.refl table
  | cons child others ih => exact (takeChild_extends table child).trans (ih _)

structure Names (container : Symbol) (collection : String) (icons : List Symbol) : Prop where
  icons_nodup : (icons.map Symbol.name).Nodup
  collection_ne_icon : collection ∉ icons.map Symbol.name
  collection_ne_container : collection ≠ container.name

theorem takenNames_ok {collection slot : String} (hcontainer : container.enclosing = none)
    (hicons : ∀ icon ∈ icons, icon.enclosing = none)
    (h : takenNames container collection slot icons children = .ok taken) :
    taken.package = container.package ∧ Names container collection icons := by
  simp only [takenNames, bind_eq_ok_iff, pure_eq_ok_iff] at h
  obtain ⟨declared, hdeclare, slotted, hslot, adopted, hadopt, listed, hlisted, rfl⟩ := h
  obtain ⟨hgrow, hcollection⟩ := ImportTable.declare_ok hdeclare
  have hslotted := (ImportTable.declare_ok hslot).1.extends
  obtain ⟨hadoptGrow, hadoptOwner⟩ := ImportTable.adopt_ok hadopt
  obtain ⟨hextends, hnodup, hall⟩ := takeIcons_ok hlisted
  have hadopted := hslotted.trans hadoptGrow.extends
  have hpackage := ((hgrow.extends.trans hadopted).trans hextends).trans
    (takeChildren_extends listed children)
  have hne : collection ≠ container.name := by
    intro heq
    rw [Symbol.importName_of_enclosing hcontainer, ← heq,
      hadopted.owner? hcollection] at hadoptOwner
    cases hadoptOwner
  refine ⟨hpackage.package_eq, hnodup, ?_, hne⟩
  intro hmem
  obtain ⟨icon, hicon, hname⟩ := List.mem_map.mp hmem
  rcases (hall icon hicon).2 with hcontainer | howner
  · exact hne (hname.symm.trans hcontainer)
  · rw [Symbol.importName_of_enclosing (hicons icon hicon), hname,
      (hadopted.trans hextends).owner? hcollection] at howner
    cases howner

section

variable {collection : String} {style : CodeStyle} {names after : UsedNames}
  {built : GroupCollection}

theorem build_eq_ok
    (h : build container collection style icons children names = .ok (built, after)) :
    names.allocate (slotStem collection) = (built.slot, after) ∧
      built.handle = .extension container.package collection ∧
        ∃ taken, takenNames container collection built.slot icons children = .ok taken ∧
          built.file = .ofMembers taken collection style.indent
            (members container collection built.slot style icons children) := by
  simp only [build, bind_eq_ok_iff, pure_eq_ok_iff] at h
  obtain ⟨taken, htaken, heq⟩ := h
  cases heq
  exact ⟨rfl, rfl, taken, htaken, rfl⟩

theorem build_ok (hcontainer : container.enclosing = none)
    (hicons : ∀ icon ∈ icons, icon.enclosing = none)
    (h : build container collection style icons children names = .ok (built, after)) :
    built.file.package = container.package ∧ built.file.fileName = collection ∧
      Names container collection icons := by
  obtain ⟨-, -, taken, htaken, hfile⟩ := build_eq_ok h
  obtain ⟨hpackage, hnames⟩ := takenNames_ok hcontainer hicons htaken
  rw [hfile]
  exact ⟨hpackage, rfl, hnames⟩

end

end GroupCollection
end IconForge
