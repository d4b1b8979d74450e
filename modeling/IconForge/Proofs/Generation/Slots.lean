import IconForge.Proofs.Generation.Initializers
import IconForge.Proofs.Generation.UsedNames

/-!
# The slots of a run

A group allocates a slot for each accepted icon, whether or not the icon can be generated, and one
for its collection. All slots of a run are distinct and were free when it began, and none has the
name of an accepted icon of its own group (`runGroup_slots`).

The names of a group's icons are reserved when the group is generated, and not before. So a slot may
have the name of an icon of a later group; this is the only way in which slots and icons can meet
(`generateWith_slots_avoid_iff`).
-/

namespace IconForge

structure GroupSlots where
  group : IconGroup
  /-- The accepted icons with their slots. -/
  jobs : List (IconSource × String)
  /-- The slot of the collection. -/
  collection : String

namespace GroupSlots

def slots (own : GroupSlots) : List String := own.jobs.map Prod.snd ++ [own.collection]

def iconNames (own : GroupSlots) : List String := own.jobs.map fun job => job.1.name

/-- No slot of the first group has the name of an accepted icon of the second one. -/
def Avoids (own other : GroupSlots) : Prop := ∀ slot ∈ own.slots, slot ∉ other.iconNames

instance (own other : GroupSlots) : Decidable (own.Avoids other) := by
  unfold Avoids
  infer_instance

end GroupSlots

/-- A group is generated with its slots: each accepted icon is built with its own, and the
collection has the last one. -/
structure GroupPart.Uses (generator : Generator) (accepts : String → Bool) (part : GroupPart)
    (own : GroupSlots) : Prop where
  group : own.group = part.group
  selected : own.jobs.map Prod.fst = part.group.icons.filter fun icon => accepts icon.name
  /-- What becomes of the icons is decided by what each becomes with its slot. -/
  settled : Generator.settle generator.schedule.policy
      (own.jobs.map fun (icon, slot) =>
        generator.generateIcon part.group.package part.group.classSymbol icon slot) =
    .ok (part.own.icons, part.own.failures)
  declared : ∀ icon ∈ part.own.icons, icon.declaration.slot ∈ own.slots
  collection : own.collection = part.collection.slot

theorem UsedNames.jobs_map_snd (names : UsedNames) (icons : List IconSource) :
    (names.jobs icons).map Prod.snd =
      ((names.reserveAll (icons.map IconSource.name)).allocateSlots
        (icons.map IconSource.name)).1 :=
  List.map_snd_zip (by simp [length_allocateSlots])

namespace Generator

/-- The slots of a group, and the names in use after their allocation. -/
def slotsOf (generator : Generator) (accepts : String → Bool) (group : IconGroup)
    (names : UsedNames) : GroupSlots × UsedNames :=
  let selected := group.icons.filter fun icon => accepts icon.name
  let iconNames := selected.map IconSource.name
  let between := ((names.reserveAll iconNames).allocateSlots iconNames).2
  let (slot, after) := between.allocate (GroupCollection.slotStem generator.collectionName)
  (⟨group, names.jobs selected, slot⟩, after)

/-- The slots of groups that are generated one after another. -/
def allSlots (generator : Generator) (accepts : String → Bool) :
    List IconGroup → UsedNames → List GroupSlots × UsedNames
  | [], names => ([], names)
  | group :: others, names =>
    let (first, between) := generator.slotsOf accepts group names
    let (rest, after) := allSlots generator accepts others between
    (first :: rest, after)

variable {generator : Generator} {accepts : String → Bool}

/-! ### The slots that a run uses -/

theorem generateIcon_slot {package : String} {groupClass : Symbol} {source : IconSource}
    {slot : String} {icon : IconOutput}
    (h : generator.generateIcon package groupClass source slot = .ok icon) :
    icon.declaration.slot = slot := by
  simp only [generateIcon, IconDeclaration.build, bind_eq_ok_iff, mapError_eq_ok_iff,
    pure_eq_ok_iff] at h
  obtain ⟨drawing, -, declaration, ⟨body, -, rfl⟩, file, -, rfl⟩ := h
  rfl

theorem runPart_uses {group : IconGroup} {names after : UsedNames} {part : GroupPart}
    (h : generator.runPart accepts group names = .ok (part, after)) :
    part.Uses generator accepts (generator.slotsOf accepts group names).1 ∧
      (generator.slotsOf accepts group names).2 = after := by
  obtain ⟨rfl, between, hown, -, hbuild⟩ := runPart_ok h
  simp only [runIcons, bind_eq_ok_iff, pure_eq_ok_iff, runJobs_eq_settle] at hown
  obtain ⟨⟨icons, failures⟩, hsettle, heq⟩ := hown
  obtain ⟨hpart, rfl⟩ := Prod.mk.inj heq
  obtain ⟨hallocate, -⟩ := GroupCollection.build_eq_ok hbuild
  refine ⟨?_, congrArg Prod.snd hallocate⟩
  constructor
  case group => rfl
  case selected => exact names.jobs_map_fst _
  case settled =>
    rw [← hpart]
    exact hsettle
  case declared =>
    rw [← hpart]
    intro icon hicon
    rw [(settle_ok hsettle).1, mem_successes] at hicon
    obtain ⟨⟨source, slot⟩, hjob, hgenerate⟩ := List.mem_map.mp hicon
    rw [generateIcon_slot hgenerate]
    exact List.mem_append_left _ (List.mem_map.mpr ⟨(source, slot), hjob, rfl⟩)
  case collection => exact congrArg Prod.fst hallocate

theorem runParts_uses {groups : List IconGroup} {names after : UsedNames} {parts : List GroupPart}
    (h : generator.runParts accepts groups names = .ok (parts, after)) :
    List.Forall₂ (GroupPart.Uses generator accepts) parts
        (generator.allSlots accepts groups names).1 ∧
      (generator.allSlots accepts groups names).2 = after := by
  induction groups generalizing names parts with
  | nil =>
    cases h
    exact ⟨.nil, rfl⟩
  | cons group others ih =>
    simp only [runParts, bind_eq_ok_iff, pure_eq_ok_iff] at h
    obtain ⟨⟨part, between⟩, hpart, ⟨rest, last⟩, hrest, heq⟩ := h
    cases heq
    obtain ⟨hfirst, rfl⟩ := runPart_uses hpart
    obtain ⟨hothers, hlast⟩ := ih hrest
    exact ⟨.cons hfirst hothers, hlast⟩

/-! ### What slots differ from -/

section Slots

variable (generator : Generator) (accepts : String → Bool)

theorem slotsOf_iconNames (group : IconGroup) (names : UsedNames) :
    (generator.slotsOf accepts group names).1.iconNames =
      (group.icons.filter fun icon => accepts icon.name).map IconSource.name := by
  change List.map (IconSource.name ∘ Prod.fst) (names.jobs _) = _
  rw [← List.map_map, names.jobs_map_fst]

/-- The slots of a group are allocated after the names of its icons have been reserved. -/
theorem slotsOf_allocates (group : IconGroup) (names : UsedNames) :
    UsedNames.Allocates
      (names.reserveAll (generator.slotsOf accepts group names).1.iconNames)
      (generator.slotsOf accepts group names).1.slots
      (generator.slotsOf accepts group names).2 := by
  rw [slotsOf_iconNames]
  have hslots := (names.reserveAll ((group.icons.filter fun icon => accepts icon.name).map
    IconSource.name)).allocateSlots_allocates
      ((group.icons.filter fun icon => accepts icon.name).map IconSource.name)
  have hjobs := names.jobs_map_snd (group.icons.filter fun icon => accepts icon.name)
  rw [← hjobs] at hslots
  exact hslots.append (UsedNames.allocate_allocates _ _)

theorem slotsOf_avoids (group : IconGroup) (names : UsedNames) :
    (generator.slotsOf accepts group names).1.Avoids
      (generator.slotsOf accepts group names).1 := by
  intro slot hslot hname
  apply (slotsOf_allocates generator accepts group names).fresh slot hslot
  exact (UsedNames.mem_reserveAll names _).mpr (.inl hname)

theorem slotsOf_iconNames_taken (group : IconGroup) (names : UsedNames) :
    ∀ name ∈ (generator.slotsOf accepts group names).1.iconNames,
      name ∈ (generator.slotsOf accepts group names).2.names := by
  intro name hname
  apply (slotsOf_allocates generator accepts group names).kept
  exact (UsedNames.mem_reserveAll names _).mpr (.inl hname)

theorem allSlots_allocates (groups : List IconGroup) (names : UsedNames) :
    UsedNames.Allocates names
      ((generator.allSlots accepts groups names).1.flatMap GroupSlots.slots)
      (generator.allSlots accepts groups names).2 := by
  induction groups generalizing names with
  | nil => exact .nil names
  | cons group others ih =>
    have hfirst := (slotsOf_allocates generator accepts group names).of_reserveAll
    exact hfirst.append (ih (generator.slotsOf accepts group names).2)

theorem allSlots_avoid_self (groups : List IconGroup) (names : UsedNames) :
    ∀ own ∈ (generator.allSlots accepts groups names).1, own.Avoids own := by
  induction groups generalizing names with
  | nil => simp [allSlots]
  | cons group others ih =>
    simp only [allSlots, List.forall_mem_cons]
    exact ⟨slotsOf_avoids generator accepts group names, ih _⟩

/-- The slots of later groups differ from the names of the icons of earlier ones, which are in use
by then. -/
theorem allSlots_avoid_earlier (groups : List IconGroup) (names : UsedNames) :
    (generator.allSlots accepts groups names).1.Pairwise fun earlier later =>
      later.Avoids earlier := by
  induction groups generalizing names with
  | nil => exact .nil
  | cons group others ih =>
    apply List.pairwise_cons.mpr
    refine ⟨?_, ih _⟩
    intro later hlater slot hslot hname
    have hothers := allSlots_allocates generator accepts others
      (generator.slotsOf accepts group names).2
    apply hothers.fresh slot (List.mem_flatMap.mpr ⟨later, hlater, hslot⟩)
    exact slotsOf_iconNames_taken generator accepts group names slot hname

/-- Slots and icons of a run meet only where a slot has the name of an icon of a later group. -/
theorem allSlots_avoid_iff (groups : List IconGroup) (names : UsedNames) :
    (∀ own ∈ (generator.allSlots accepts groups names).1,
        ∀ other ∈ (generator.allSlots accepts groups names).1, own.Avoids other) ↔
      (generator.allSlots accepts groups names).1.Pairwise GroupSlots.Avoids := by
  constructor
  · intro h
    exact List.pairwise_of_forall_mem_list h
  · intro h
    exact List.Pairwise.forall_of_forall_of_flip
      (allSlots_avoid_self generator accepts groups names) h
      (allSlots_avoid_earlier generator accepts groups names)

theorem underscore_prefix_slotsOf (group : IconGroup) (names : UsedNames) :
    ∀ slot ∈ (generator.slotsOf accepts group names).1.slots, ['_'] <+: slot.toList := by
  intro slot hslot
  rcases List.mem_append.mp hslot with hicon | hcollection
  · have hjobs := names.jobs_map_snd (group.icons.filter fun icon => accepts icon.name)
    apply UsedNames.underscore_prefix_allocateSlots _ _ slot
    rw [← hjobs]
    exact hicon
  · rw [List.mem_singleton.mp hcollection]
    have hstem : ['_'] <+: (GroupCollection.slotStem generator.collectionName).toList := by
      simp [GroupCollection.slotStem]
    exact hstem.trans (UsedNames.prefix_freeName _ _)

theorem underscore_prefix_allSlots (groups : List IconGroup) (names : UsedNames) :
    ∀ own ∈ (generator.allSlots accepts groups names).1, ∀ slot ∈ own.slots,
      ['_'] <+: slot.toList := by
  induction groups generalizing names with
  | nil => simp [allSlots]
  | cons group others ih =>
    simp only [allSlots, List.forall_mem_cons]
    exact ⟨underscore_prefix_slotsOf generator accepts group names, ih _⟩

theorem allSlots_iconNames (groups : List IconGroup) (names : UsedNames) :
    ∀ own ∈ (generator.allSlots accepts groups names).1, ∀ name ∈ own.iconNames,
      ∃ group ∈ groups, ∃ icon ∈ group.icons, accepts icon.name = true ∧ icon.name = name := by
  induction groups generalizing names with
  | nil => simp [allSlots]
  | cons group others ih =>
    simp only [allSlots, List.forall_mem_cons]
    constructor
    · intro name hname
      rw [slotsOf_iconNames] at hname
      obtain ⟨icon, hicon, rfl⟩ := List.mem_map.mp hname
      obtain ⟨hmem, haccepts⟩ := List.mem_filter.mp hicon
      exact ⟨group, List.mem_cons_self, icon, hmem, haccepts, rfl⟩
    · intro own hown name hname
      obtain ⟨other, hother, hrest⟩ := ih _ own hown name hname
      exact ⟨other, List.mem_cons_of_mem group hother, hrest⟩

end Slots

/-- The slots of a run, one for each accepted icon and one for each collection: they are distinct,
none was in use before the run, and none has the name of an accepted icon of its group. -/
theorem runGroup_slots {root : IconGroup} {names after : UsedNames} {output : GroupOutput}
    (h : generator.runGroup accepts root names = .ok (output, after)) :
    ∃ parts slots,
      generator.runParts accepts root.inOrder names = .ok (parts, after) ∧
        output = (Totals.ofParts parts).output root generator.collectionName ∧
        generator.allSlots accepts root.inOrder names = (slots, after) ∧
        List.Forall₂ (GroupPart.Uses generator accepts) parts slots ∧
        (slots.flatMap GroupSlots.slots).Nodup ∧
        (∀ slot ∈ slots.flatMap GroupSlots.slots, slot ∉ names.names) ∧
        ∀ own ∈ slots, own.Avoids own := by
  rw [runGroup_eq] at h
  simp only [bind_eq_ok_iff, pure_eq_ok_iff] at h
  obtain ⟨⟨parts, last⟩, hparts, heq⟩ := h
  cases heq
  obtain ⟨huses, hafter⟩ := runParts_uses hparts
  have hallocates := allSlots_allocates generator accepts root.inOrder names
  exact ⟨parts, _, hparts, rfl, Prod.ext rfl hafter, huses, hallocates.nodup, hallocates.fresh,
    allSlots_avoid_self generator accepts root.inOrder names⟩

/-- Icons that differ in the case of one letter and one that cannot be read, and a child group with
one of the names again. -/
def caseVariants : IconGroup :=
  ⟨"icons", "Icons", [⟨"Foo", "", ""⟩, ⟨"foo", "", ""⟩, ⟨"_foo3", "", ""⟩, ⟨"Broken", "", ""⟩],
    [⟨"icons.actions", "Actions", [⟨"Foo", "", ""⟩], []⟩]⟩

theorem caseVariants_slots :
    ∃ (output : GroupOutput) (after : UsedNames) (slots : List GroupSlots),
      (GenerationConfig.sequential.generator brittleParser).runGroup (fun _ => true) caseVariants
          ⟨["_foo"]⟩ = .ok (output, after) ∧
        slots.flatMap GroupSlots.slots =
            ["_foo2", "__AllIcons", "_foo4", "_foo5", "__foo3", "_broken", "__AllIcons2"] ∧
          (slots.flatMap GroupSlots.slots).Nodup ∧
            (∀ slot ∈ slots.flatMap GroupSlots.slots, slot ∉ ["_foo"]) ∧
              ∀ own ∈ slots, own.Avoids own := by
  have hsuccess : ((GenerationConfig.sequential.generator brittleParser).runGroup (fun _ => true)
      caseVariants ⟨["_foo"]⟩).toBool = true := by
    decide +kernel
  have hslots : ((GenerationConfig.sequential.generator brittleParser).allSlots (fun _ => true)
      caseVariants.inOrder ⟨["_foo"]⟩).1.flatMap GroupSlots.slots =
        ["_foo2", "__AllIcons", "_foo4", "_foo5", "__foo3", "_broken", "__AllIcons2"] := by
    decide +kernel
  obtain ⟨result, h⟩ := exists_eq_ok_of_toBool hsuccess
  obtain ⟨parts, slots, -, -, hall, -, hnodup, hfresh, havoid⟩ := runGroup_slots h
  rw [hall] at hslots
  exact ⟨result.1, result.2, slots, h, hslots, hnodup, hfresh, havoid⟩

end Generator

/-- In a run of a tree no slot has the name of any accepted icon, if and only if none has the name
of an icon of a group that is generated later than its own. Where no accepted icon begins with an
underscore, as all slots do, this is so. -/
theorem generateWith_slots_avoid_iff {parser : IconParser} {root : IconGroup}
    {accepts : String → Bool} {config : GenerationConfig} {output : GroupOutput}
    (h : generateWith parser root accepts config = .ok output) :
    ∃ parts slots after,
      (config.generator parser).runParts accepts root.inOrder .empty = .ok (parts, after) ∧
        (config.generator parser).allSlots accepts root.inOrder .empty = (slots, after) ∧
        List.Forall₂ (GroupPart.Uses (config.generator parser) accepts) parts slots ∧
        ((∀ own ∈ slots, ∀ other ∈ slots, own.Avoids other) ↔
          slots.Pairwise GroupSlots.Avoids) ∧
        ((∀ group ∈ root.inOrder, ∀ icon ∈ group.icons, accepts icon.name = true →
            ¬ ['_'] <+: icon.name.toList) →
          ∀ own ∈ slots, ∀ other ∈ slots, own.Avoids other) := by
  obtain ⟨parts, after, hparts, -⟩ := generateWith_ok h
  obtain ⟨huses, hafter⟩ := Generator.runParts_uses hparts
  refine ⟨parts, _, after, hparts, Prod.ext rfl hafter, huses,
    Generator.allSlots_avoid_iff _ _ _ _, ?_⟩
  intro hnames own hown other hother slot hslot hname
  obtain ⟨group, hgroup, icon, hicon, haccepts, rfl⟩ :=
    Generator.allSlots_iconNames _ _ _ _ other hother slot hname
  apply hnames group hgroup icon hicon haccepts
  exact Generator.underscore_prefix_allSlots _ _ _ _ own hown icon.name hslot

theorem folderAndActions_slots_avoid :
    ∃ (output : GroupOutput) (slots : List GroupSlots),
      generateWith blankParser folderAndActions (fun _ => true) .sequential = .ok output ∧
        slots.flatMap GroupSlots.slots = ["_add", "__AllIcons", "_folder", "__AllIcons2"] ∧
          ∀ own ∈ slots, ∀ other ∈ slots, own.Avoids other := by
  have hsuccess :
      (generateWith blankParser folderAndActions (fun _ => true) .sequential).toBool = true := by
    decide +kernel
  have hslots : ((GenerationConfig.sequential.generator blankParser).allSlots (fun _ => true)
      folderAndActions.inOrder .empty).1.flatMap GroupSlots.slots =
        ["_add", "__AllIcons", "_folder", "__AllIcons2"] := by
    decide +kernel
  obtain ⟨output, h⟩ := exists_eq_ok_of_toBool hsuccess
  obtain ⟨parts, slots, after, -, hall, -, -, havoid⟩ := generateWith_slots_avoid_iff h
  rw [hall] at hslots
  exact ⟨output, slots, h, hslots, havoid (by decide)⟩

/-- An icon whose name begins with an underscore, and a child group with one that has a slot of this
name. -/
def underscoredFoo : IconGroup :=
  ⟨"icons", "Icons", [⟨"_foo", "", ""⟩],
    [⟨"icons.actions", "Actions", [⟨"Foo", "", ""⟩], []⟩]⟩

/-- Both icons are generated, and the slot of the first is the name of the second. -/
theorem underscoredFoo_slot_meets_icon :
    ∃ output parts slots after,
      generateWith blankParser underscoredFoo (fun _ => true) .sequential = .ok output ∧
        (GenerationConfig.sequential.generator blankParser).runParts (fun _ => true)
            underscoredFoo.inOrder .empty = .ok (parts, after) ∧
        (GenerationConfig.sequential.generator blankParser).allSlots (fun _ => true)
            underscoredFoo.inOrder .empty = (slots, after) ∧
        (parts.map fun part => part.own.icons.map fun icon =>
            (icon.handle.name, icon.declaration.slot)) = [[("Foo", "_foo")], [("_foo", "__foo")]] ∧
        ¬ ∀ own ∈ slots, ∀ other ∈ slots, own.Avoids other := by
  have hicons : (((GenerationConfig.sequential.generator blankParser).runParts (fun _ => true)
      underscoredFoo.inOrder .empty).map fun result => result.1.map fun part =>
        part.own.icons.map fun icon => (icon.handle.name, icon.declaration.slot)) =
          .ok [[("Foo", "_foo")], [("_foo", "__foo")]] := by
    decide +kernel
  have hmeet : ¬ ∀ own ∈ ((GenerationConfig.sequential.generator blankParser).allSlots
      (fun _ => true) underscoredFoo.inOrder .empty).1,
        ∀ other ∈ ((GenerationConfig.sequential.generator blankParser).allSlots
          (fun _ => true) underscoredFoo.inOrder .empty).1, own.Avoids other := by
    decide +kernel
  have hsuccess :
      (generateWith blankParser underscoredFoo (fun _ => true) .sequential).toBool = true := by
    decide +kernel
  obtain ⟨output, h⟩ := exists_eq_ok_of_toBool hsuccess
  obtain ⟨parts, after, hparts, -⟩ := generateWith_ok h
  obtain ⟨-, hafter⟩ := Generator.runParts_uses hparts
  have hnames : (parts.map fun part => part.own.icons.map fun icon =>
      (icon.handle.name, icon.declaration.slot)) = [[("Foo", "_foo")], [("_foo", "__foo")]] := by
    change (GenerationConfig.sequential.generator blankParser).runParts _ _ _ = _ at hparts
    rw [hparts] at hicons
    simpa [Except.map] using hicons
  exact ⟨output, parts, _, after, h, hparts, Prod.ext rfl hafter, hnames, hmeet⟩

end IconForge
