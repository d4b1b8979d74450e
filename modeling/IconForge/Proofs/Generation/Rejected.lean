import IconForge.Proofs.Generation.Accounting

/-!
# Icons that are not accepted

A run of a tree and a run of the tree without the icons that are not accepted go the same way: they
fail alike, or answer the same but for the number of skipped icons (`generateWith_eq_accepted`).
Such icons reserve no name and have no slot, so no other group sees them either.
-/

namespace IconForge

/-! ### Trees without rejected icons -/

namespace IconGroup

mutual

/-- A tree without the icons whose names are not accepted, at any level. -/
def accepted (accepts : String → Bool) : IconGroup → IconGroup
  | ⟨package, className, icons, children⟩ =>
    ⟨package, className, icons.filter fun icon => accepts icon.name, acceptedEach accepts children⟩

def acceptedEach (accepts : String → Bool) : List IconGroup → List IconGroup
  | [] => []
  | group :: others => group.accepted accepts :: acceptedEach accepts others

end

mutual

theorem allIcons_accepted (accepts : String → Bool) (group : IconGroup) :
    (group.accepted accepts).allIcons = group.allIcons.filter fun icon => accepts icon.name := by
  match group with
  | ⟨package, className, icons, children⟩ =>
    simp only [accepted, allIcons, inOrder, List.flatMap_append, List.filter_append,
      flatMap_icons_acceptedEach accepts children, List.flatMap_cons, List.flatMap_nil,
      List.append_nil]

theorem flatMap_icons_acceptedEach (accepts : String → Bool) (groups : List IconGroup) :
    (inOrders (acceptedEach accepts groups)).flatMap IconGroup.icons =
      ((inOrders groups).flatMap IconGroup.icons).filter fun icon => accepts icon.name := by
  match groups with
  | [] => rfl
  | group :: others =>
    have hfirst := allIcons_accepted accepts group
    unfold allIcons at hfirst
    rw [acceptedEach, inOrders, inOrders, List.flatMap_append, List.flatMap_append,
      List.filter_append, hfirst, flatMap_icons_acceptedEach accepts others]

end

end IconGroup

/-- An output with another number of skipped icons. -/
def GroupOutput.withSkipped (count : Nat) (output : GroupOutput) : GroupOutput :=
  { output with skipped := count }

theorem sum_skipped_withSkipped (outputs : List GroupOutput) :
    ((outputs.map (GroupOutput.withSkipped 0)).map GroupOutput.skipped).sum = 0 := by
  induction outputs with
  | nil => rfl
  | cons output others ih =>
    rw [List.map_cons, List.map_cons, List.sum_cons, ih]
    rfl

namespace Generator

variable {generator : Generator} {accepts : String → Bool}

/-! ### Groups without rejected icons -/

theorem runIcons_accepted (package : String) (groupClass : Symbol) (icons : List IconSource)
    (names : UsedNames) :
    generator.runIcons package groupClass (fun _ => true)
        (icons.filter fun icon => accepts icon.name) names =
      (generator.runIcons package groupClass accepts icons names).map fun (own, after) =>
        ({ own with skipped := 0 }, after) := by
  unfold runIcons
  simp only [List.filter_true, Nat.sub_self]
  generalize runJobs generator.schedule _ _ = outcome
  cases outcome with
  | error failure => rfl
  | ok results => rfl

/-- A group sees of the groups below it only their classes and what they add. -/
theorem runOwn_accepted (groupClass : Symbol) (icons : List IconSource)
    (children : List GroupOutput) (names : UsedNames) :
    generator.runOwn (fun _ => true) groupClass (icons.filter fun icon => accepts icon.name)
        (children.map (GroupOutput.withSkipped 0)) names =
      (generator.runOwn accepts groupClass icons children names).map fun (output, after) =>
        (output.withSkipped 0, after) := by
  have hhandles : (children.map (GroupOutput.withSkipped 0)).map GroupOutput.handle =
      children.map GroupOutput.handle := List.map_map
  have hfiles : (children.map (GroupOutput.withSkipped 0)).flatMap GroupOutput.files =
      children.flatMap GroupOutput.files := List.flatMap_map _ _ _
  have hfailures : (children.map (GroupOutput.withSkipped 0)).flatMap GroupOutput.failures =
      children.flatMap GroupOutput.failures := List.flatMap_map _ _ _
  have hgenerated : (children.map (GroupOutput.withSkipped 0)).map GroupOutput.generated =
      children.map GroupOutput.generated := List.map_map
  have hskipped := sum_skipped_withSkipped children
  unfold runOwn
  rw [runIcons_accepted, hhandles, hfiles, hfailures, hgenerated, hskipped]
  cases generator.runIcons groupClass.package groupClass accepts icons names with
  | error failure => rfl
  | ok own =>
    cases generator.groupObject groupClass with
    | error collision => rfl
    | ok object =>
      change (GroupCollection.build groupClass generator.collectionName generator.context.style
        own.1.handles (children.map GroupOutput.handle) own.2).mapError _ >>= _ = Except.map _
          ((GroupCollection.build groupClass generator.collectionName generator.context.style
            own.1.handles (children.map GroupOutput.handle) own.2).mapError _ >>= _)
      cases GroupCollection.build groupClass generator.collectionName generator.context.style
        own.1.handles (children.map GroupOutput.handle) own.2 with
      | error collision => rfl
      | ok collection => rfl

/-! ### Trees -/

mutual

theorem runGroup_accepted (group : IconGroup) (names : UsedNames) :
    generator.runGroup (fun _ => true) (group.accepted accepts) names =
      (generator.runGroup accepts group names).map fun (output, after) =>
        (output.withSkipped 0, after) := by
  match group with
  | ⟨package, className, icons, children⟩ =>
    rw [IconGroup.accepted, runGroup, runGroup, runGroups_accepted children names]
    cases generator.runGroups accepts children names with
    | error e => rfl
    | ok outputs => exact runOwn_accepted _ icons outputs.1 outputs.2

theorem runGroups_accepted (groups : List IconGroup) (names : UsedNames) :
    generator.runGroups (fun _ => true) (IconGroup.acceptedEach accepts groups) names =
      (generator.runGroups accepts groups names).map fun (outputs, after) =>
        (outputs.map (GroupOutput.withSkipped 0), after) := by
  match groups with
  | [] => rfl
  | group :: others =>
    rw [IconGroup.acceptedEach, runGroups, runGroups, runGroup_accepted group names]
    cases generator.runGroup accepts group names with
    | error e => rfl
    | ok first =>
      change (generator.runGroups (fun _ => true) (IconGroup.acceptedEach accepts others)
        first.2 >>= _) = Except.map _ (generator.runGroups accepts others first.2 >>= _)
      rw [runGroups_accepted others first.2]
      cases generator.runGroups accepts others first.2 with
      | error e => rfl
      | ok rest => rfl

end

end Generator

variable {parser : IconParser} {root : IconGroup} {accepts : String → Bool}
  {config : GenerationConfig}

theorem generateWith_accepted :
    generateWith parser (root.accepted accepts) (fun _ => true) config =
      (generateWith parser root accepts config).map (GroupOutput.withSkipped 0) := by
  unfold generateWith
  cases config.theme.check with
  | error e => rfl
  | ok checked =>
    change ((config.generator parser).runGroup (fun _ => true) (root.accepted accepts) .empty >>=
        _) = Except.map _ ((config.generator parser).runGroup accepts root .empty >>= _)
    rw [Generator.runGroup_accepted]
    cases (config.generator parser).runGroup accepts root .empty with
    | error e => rfl
    | ok result => rfl

/-- Icons that are not accepted leave no trace. A tree and the tree without them fail with the same
error, or answer with the same files, class, failures and number of generated icons; only the number
of skipped icons differs, which is that of the icons that are left out. -/
theorem generateWith_eq_accepted (parser : IconParser) (root : IconGroup)
    (accepts : String → Bool) (config : GenerationConfig) :
    let rejected := root.allIcons.filter fun icon => ! accepts icon.name
    generateWith parser root accepts config =
        (generateWith parser (root.accepted accepts) (fun _ => true) config).map
          (GroupOutput.withSkipped rejected.length) ∧
      (root.accepted accepts).allIcons =
        (root.allIcons.filter fun icon => accepts icon.name) ∧
      (root.accepted accepts).iconCount + rejected.length = root.iconCount ∧
      ∀ output, generateWith parser (root.accepted accepts) (fun _ => true) config = .ok output →
        output.skipped = 0 := by
  intro rejected
  refine ⟨?_, root.allIcons_accepted accepts, ?_, ?_⟩
  · rw [generateWith_accepted]
    cases h : generateWith parser root accepts config with
    | error e => rfl
    | ok output =>
      obtain ⟨-, hskipped, -, -⟩ := generateWith_accounts h
      change Except.ok output = Except.ok { output with skipped := rejected.length }
      rw [← hskipped]
  · rw [IconGroup.iconCount_eq, IconGroup.iconCount_eq, IconGroup.allIcons_accepted,
      root.allIcons.length_eq_length_filter_add fun icon => accepts icon.name]
  · intro output h
    rw [generateWith_accepted] at h
    obtain ⟨original, -, rfl⟩ := map_eq_ok_iff.mp h
    rfl

end IconForge
