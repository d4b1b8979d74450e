import IconForge.Proofs.Generation.Slots

/-!
# Independence of icons

What becomes of an icon is decided by its source and its slot, and the slots are decided by the
names of the icons. If one icon of a tree is exchanged for another of the same name, then every
other icon becomes what it was, and so does every class and every collection but that of the group
of the icon, which keeps its slot (`generateWith_of_changesIcon`). Whether the icon can be
generated makes no difference to this.
-/

namespace IconForge

/-! ### Trees that differ in one icon -/

namespace IconGroup

/-- The second tree has one icon in the place of another one, and is the first tree otherwise. -/
inductive ChangesIcon (old new : IconSource) : IconGroup → IconGroup → Prop
  | here (package className : String) (before after : List IconSource)
      (children : List IconGroup) :
      ChangesIcon old new ⟨package, className, before ++ old :: after, children⟩
        ⟨package, className, before ++ new :: after, children⟩
  | inChild (package className : String) (icons : List IconSource) (before after : List IconGroup)
      {child child' : IconGroup} : ChangesIcon old new child child' →
      ChangesIcon old new ⟨package, className, icons, before ++ child :: after⟩
        ⟨package, className, icons, before ++ child' :: after⟩

/-- Groups with the same class and the same classes below it. -/
structure SameClasses (first second : IconGroup) : Prop where
  package : first.package = second.package
  className : first.className = second.className
  children : first.children.map classSymbol = second.children.map classSymbol

/-- Groups that are alike but for what lies in the groups below them. -/
structure Alike (first second : IconGroup) : Prop extends SameClasses first second where
  icons : first.icons = second.icons

/-- Groups that are alike but for one of their own icons. -/
structure HasChanged (old new : IconSource) (first second : IconGroup) : Prop extends
    SameClasses first second where
  icons : ∃ before after,
    first.icons = before ++ old :: after ∧ second.icons = before ++ new :: after

variable {old new : IconSource} {root root' : IconGroup}

theorem SameClasses.classSymbol_eq (h : SameClasses root root') :
    root.classSymbol = root'.classSymbol := by
  rw [classSymbol, classSymbol, h.package, h.className]

theorem ChangesIcon.classSymbol_eq (h : ChangesIcon old new root root') :
    root.classSymbol = root'.classSymbol := by
  cases h <;> rfl

theorem Alike.refl (group : IconGroup) : Alike group group := ⟨⟨rfl, rfl, rfl⟩, rfl⟩

theorem forall₂_alike_refl (groups : List IconGroup) : List.Forall₂ Alike groups groups :=
  List.forall₂_same.mpr fun group _ => Alike.refl group

theorem inOrders_append (first second : List IconGroup) :
    inOrders (first ++ second) = inOrders first ++ inOrders second := by
  induction first with
  | nil => rfl
  | cons group others ih => rw [List.cons_append, inOrders, inOrders, ih, List.append_assoc]

theorem inOrder_of_child (package className : String) (icons : List IconSource)
    (before after : List IconGroup) (child : IconGroup) :
    inOrder ⟨package, className, icons, before ++ child :: after⟩ =
      inOrders before ++ child.inOrder ++
        (inOrders after ++ [⟨package, className, icons, before ++ child :: after⟩]) := by
  rw [inOrder, inOrders_append, inOrders]
  simp

/-- In the order of generation, the group of the icon is the only one that has changed. -/
theorem ChangesIcon.inOrder (h : ChangesIcon old new root root') :
    ∃ earlier group later earlier' group' later',
      root.inOrder = earlier ++ group :: later ∧ root'.inOrder = earlier' ++ group' :: later' ∧
        List.Forall₂ Alike earlier earlier' ∧ HasChanged old new group group' ∧
          List.Forall₂ Alike later later' := by
  induction h with
  | here package className before after children =>
    refine ⟨inOrders children, _, [], inOrders children, _, [], rfl, rfl,
      forall₂_alike_refl _, ⟨⟨rfl, rfl, rfl⟩, before, after, rfl, rfl⟩, .nil⟩
  | @inChild package className icons before after child child' hchild ih =>
    obtain ⟨earlier, group, later, earlier', group', later', hsplit, hsplit', hearlier, hchanged,
      hlater⟩ := ih
    have hclasses : Alike ⟨package, className, icons, before ++ child :: after⟩
        ⟨package, className, icons, before ++ child' :: after⟩ := by
      refine ⟨⟨rfl, rfl, ?_⟩, rfl⟩
      simp [hchild.classSymbol_eq]
    have horder : IconGroup.inOrder ⟨package, className, icons, before ++ child :: after⟩ =
        (inOrders before ++ earlier) ++ group :: (later ++ (inOrders after ++
          [⟨package, className, icons, before ++ child :: after⟩])) := by
      rw [inOrder_of_child, hsplit]
      simp
    have horder' : IconGroup.inOrder ⟨package, className, icons, before ++ child' :: after⟩ =
        (inOrders before ++ earlier') ++ group' :: (later' ++ (inOrders after ++
          [⟨package, className, icons, before ++ child' :: after⟩])) := by
      rw [inOrder_of_child, hsplit']
      simp
    refine ⟨_, _, _, _, _, _, horder, horder', ?_, hchanged, ?_⟩
    · exact List.rel_append (forall₂_alike_refl _) hearlier
    · exact List.rel_append hlater (List.rel_append (forall₂_alike_refl _) (.cons hclasses .nil))

end IconGroup

/-! ### What a run makes of a group -/

/-- An accepted icon with its slot and what becomes of it. -/
structure IconOutcome where
  source : IconSource
  slot : String
  result : Except IconFailure IconOutput

/-- What becomes of the accepted icons of a group, given the names in use before it. -/
def Generator.outcomes (generator : Generator) (accepts : String → Bool) (group : IconGroup)
    (names : UsedNames) : List IconOutcome :=
  (names.jobs (group.icons.filter fun icon => accepts icon.name)).map fun (source, slot) =>
    ⟨source, slot, generator.generateIcon group.package group.classSymbol source slot⟩

/-- A group in a run, with what becomes of each accepted icon. -/
structure GroupRun where
  group : IconGroup
  outcomes : List IconOutcome
  object : SourceFile
  collection : GroupCollection

namespace GroupRun

def results (own : GroupRun) : List (Except IconFailure IconOutput) :=
  own.outcomes.map IconOutcome.result

def part (own : GroupRun) : GroupPart where
  group := own.group
  own := ⟨Generator.successes own.results, Generator.failuresOf own.results,
    own.group.icons.length - own.outcomes.length⟩
  object := own.object
  collection := own.collection

/-- The run of a group alone, from the names in use before it to those in use afterwards. -/
structure IsStep (generator : Generator) (accepts : String → Bool) (own : GroupRun)
    (names after : UsedNames) : Prop where
  part : generator.runPart accepts own.group names = .ok (own.part, after)
  outcomes : own.outcomes = generator.outcomes accepts own.group names

/-- Runs of groups with the same classes, in which the same becomes of all icons. -/
structure Alike (first second : GroupRun) : Prop where
  classes : first.group.SameClasses second.group
  outcomes : first.outcomes = second.outcomes
  object : first.object = second.object
  collection : first.collection = second.collection

/-- Runs of groups with the same classes, in which the same becomes of all icons but one, which has
the same slot. -/
structure HasChanged (old new : IconSource) (first second : GroupRun) : Prop where
  classes : first.group.SameClasses second.group
  outcomes : ∃ before slot result result' after,
    first.outcomes = before ++ ⟨old, slot, result⟩ :: after ∧
      second.outcomes = before ++ ⟨new, slot, result'⟩ :: after
  object : first.object = second.object
  slot : first.collection.slot = second.collection.slot
  handle : first.collection.handle = second.collection.handle

end GroupRun

namespace Generator

inductive Runs (generator : Generator) (accepts : String → Bool) :
    List IconGroup → UsedNames → List GroupRun → UsedNames → Prop
  | nil (names : UsedNames) : Runs generator accepts [] names [] names
  | cons {own : GroupRun} {groups : List IconGroup} {run : List GroupRun}
      {names between after : UsedNames} : own.IsStep generator accepts names between →
      Runs generator accepts groups between run after →
        Runs generator accepts (own.group :: groups) names (own :: run) after

variable {generator : Generator} {accepts : String → Bool} {names after after' : UsedNames}

theorem length_outcomes (group : IconGroup) (names : UsedNames) :
    (generator.outcomes accepts group names).length =
      (group.icons.filter fun icon => accepts icon.name).length := by
  rw [outcomes, List.length_map, ← List.length_map Prod.fst, names.jobs_map_fst]

theorem runIcons_outcomes {group : IconGroup} {own : IconsOutput}
    (h : generator.runIcons group.package group.classSymbol accepts group.icons names =
      .ok (own, after)) :
    let results := (generator.outcomes accepts group names).map IconOutcome.result
    own = ⟨successes results, failuresOf results,
      group.icons.length - (generator.outcomes accepts group names).length⟩ := by
  simp only [runIcons, bind_eq_ok_iff, pure_eq_ok_iff, runJobs_eq_settle] at h
  obtain ⟨⟨icons, failures⟩, hsettle, heq⟩ := h
  obtain ⟨hown, -⟩ := Prod.mk.inj heq
  have hresults : (generator.outcomes accepts group names).map IconOutcome.result =
      (names.jobs (group.icons.filter fun icon => accepts icon.name)).map fun (source, slot) =>
        generator.generateIcon group.package group.classSymbol source slot :=
    List.map_map
  rw [← hown, length_outcomes, hresults]
  obtain ⟨rfl, rfl⟩ := settle_ok hsettle
  rfl

theorem exists_isStep {group : IconGroup} {part : GroupPart}
    (h : generator.runPart accepts group names = .ok (part, after)) :
    ∃ own : GroupRun, own.group = group ∧ own.part = part ∧
      own.IsStep generator accepts names after := by
  obtain ⟨hgroup, between, hown, -⟩ := runPart_ok h
  let own : GroupRun :=
    ⟨group, generator.outcomes accepts group names, part.object, part.collection⟩
  have hpart : own.part = part := by
    have hicons : own.part.own = part.own := (runIcons_outcomes hown).symm
    obtain ⟨partGroup, partOwn, object, collection⟩ := part
    cases hgroup
    exact congrArg (fun icons => GroupPart.mk partGroup icons object collection) hicons
  exact ⟨own, rfl, hpart, hpart ▸ h, rfl⟩

theorem exists_runs {groups : List IconGroup} {parts : List GroupPart}
    (h : generator.runParts accepts groups names = .ok (parts, after)) :
    ∃ run, generator.Runs accepts groups names run after ∧ run.map GroupRun.part = parts := by
  induction groups generalizing names parts with
  | nil =>
    cases h
    exact ⟨[], .nil _, rfl⟩
  | cons group others ih =>
    simp only [runParts, bind_eq_ok_iff, pure_eq_ok_iff] at h
    obtain ⟨⟨part, between⟩, hpart, ⟨rest, last⟩, hrest, heq⟩ := h
    cases heq
    obtain ⟨own, rfl, rfl, hstep⟩ := exists_isStep hpart
    obtain ⟨run, hrun, rfl⟩ := ih hrest
    exact ⟨own :: run, .cons hstep hrun, rfl⟩

theorem Runs.append_inv {first second : List IconGroup} {run : List GroupRun}
    (h : generator.Runs accepts (first ++ second) names run after) :
    ∃ between earlier later, run = earlier ++ later ∧
      generator.Runs accepts first names earlier between ∧
        generator.Runs accepts second between later after := by
  induction first generalizing names run with
  | nil => exact ⟨names, [], run, rfl, .nil names, h⟩
  | cons group others ih =>
    cases h with
    | cons hstep hothers =>
      obtain ⟨between, earlier, later, rfl, hearlier, hlater⟩ := ih hothers
      exact ⟨between, _ :: earlier, later, rfl, .cons hstep hearlier, hlater⟩

/-! ### Runs of groups that are alike -/

/-- The collection and the names in use afterwards see only the names of the accepted icons. -/
theorem slotsOf_congr {first second : IconGroup} (names : UsedNames)
    (h : (first.icons.filter fun icon => accepts icon.name).map IconSource.name =
      (second.icons.filter fun icon => accepts icon.name).map IconSource.name) :
    (generator.slotsOf accepts first names).1.collection =
        (generator.slotsOf accepts second names).1.collection ∧
      (generator.slotsOf accepts first names).2 = (generator.slotsOf accepts second names).2 := by
  simp only [slotsOf, h, and_self]

variable {own own' : GroupRun}

/-- Of its icons, a group sees the accepted ones and the number of the others. -/
theorem runIcons_congr {first second : List IconSource} {package : String} {groupClass : Symbol}
    (haccepted : (first.filter fun icon => accepts icon.name) =
      second.filter fun icon => accepts icon.name)
    (hlength : first.length = second.length) :
    generator.runIcons package groupClass accepts first names =
      generator.runIcons package groupClass accepts second names := by
  simp only [runIcons, haccepted, hlength]

theorem alike_of_isStep (hclasses : own.group.SameClasses own'.group)
    (haccepted : (own.group.icons.filter fun icon => accepts icon.name) =
      own'.group.icons.filter fun icon => accepts icon.name)
    (hlength : own.group.icons.length = own'.group.icons.length)
    (h : own.IsStep generator accepts names after)
    (h' : own'.IsStep generator accepts names after') : own.Alike own' ∧ after = after' := by
  have hclass := hclasses.classSymbol_eq
  obtain ⟨-, between, hown, hobject, hbuild⟩ := runPart_ok h.part
  obtain ⟨-, between', hown', hobject', hbuild'⟩ := runPart_ok h'.part
  rw [hclasses.package, hclass, runIcons_congr haccepted hlength, hown', Except.ok.injEq,
    Prod.mk.injEq] at hown
  obtain ⟨hicons, rfl⟩ := hown
  rw [hclass, ← hicons, hclasses.children, hbuild', Except.ok.injEq, Prod.mk.injEq] at hbuild
  rw [hclass, hobject', Except.ok.injEq] at hobject
  refine ⟨⟨hclasses, ?_, hobject.symm, hbuild.1.symm⟩, hbuild.2.symm⟩
  rw [h.outcomes, h'.outcomes, outcomes, outcomes, hclasses.package, hclass, haccepted]

theorem forall₂_alike_of_runs {groups groups' : List IconGroup} {run run' : List GroupRun}
    (hgroups : List.Forall₂ IconGroup.Alike groups groups')
    (h : generator.Runs accepts groups names run after)
    (h' : generator.Runs accepts groups' names run' after') :
    List.Forall₂ GroupRun.Alike run run' ∧ after = after' := by
  induction h generalizing groups' run' after' with
  | nil =>
    cases hgroups
    cases h'
    exact ⟨.nil, rfl⟩
  | cons hstep hothers ih =>
    cases hgroups with
    | cons hgroup hrest =>
      cases h' with
      | cons hstep' hothers' =>
        obtain ⟨halike, rfl⟩ := alike_of_isStep hgroup.toSameClasses (by rw [hgroup.icons])
          (by rw [hgroup.icons]) hstep hstep'
        obtain ⟨hall, hafter⟩ := ih hrest hothers'
        exact ⟨.cons halike hall, hafter⟩

/-! ### The group of the icon -/

variable {old new : IconSource}

/-- One icon in the place of another of the same name has its slot, and the other icons keep
theirs. -/
theorem exists_jobs_append_cons (names : UsedNames) (before after : List IconSource)
    (hname : old.name = new.name) :
    ∃ earlier slot later, names.jobs (before ++ old :: after) = earlier ++ (old, slot) :: later ∧
      names.jobs (before ++ new :: after) = earlier ++ (new, slot) :: later := by
  have hnames : (before ++ old :: after).map IconSource.name =
      (before ++ new :: after).map IconSource.name := by
    simp [hname]
  have hlength := (names.reserveAll ((before ++ old :: after).map
    IconSource.name)).length_allocateSlots ((before ++ old :: after).map IconSource.name)
  simp only [UsedNames.jobs, ← hnames]
  generalize ((names.reserveAll ((before ++ old :: after).map IconSource.name)).allocateSlots
    ((before ++ old :: after).map IconSource.name)).1 = slots at hlength ⊢
  rw [List.length_map, List.length_append, List.length_cons] at hlength
  have hfirst : (slots.take before.length).length = before.length := by
    rw [List.length_take]
    omega
  obtain ⟨slot, rest, hrest⟩ : ∃ slot rest, slots.drop before.length = slot :: rest := by
    apply List.exists_cons_of_length_pos
    rw [List.length_drop]
    omega
  refine ⟨before.zip (slots.take before.length), slot, after.zip rest, ?_, ?_⟩
  all_goals
    conv_lhs => rw [← List.take_append_drop before.length slots, hrest]
    rw [List.zip_append hfirst.symm, List.zip_cons_cons]

/-- If the icon is accepted, then the other icons of its group become what they were. -/
theorem hasChanged_of_isStep (hname : old.name = new.name) (haccepts : accepts old.name = true)
    (hgroup : own.group.HasChanged old new own'.group)
    (h : own.IsStep generator accepts names after)
    (h' : own'.IsStep generator accepts names after') :
    own.HasChanged old new own' ∧ after = after' := by
  obtain ⟨hclasses, before, behind, hicons, hicons'⟩ := hgroup
  have hclass := hclasses.classSymbol_eq
  have haccepts' : accepts new.name = true := hname ▸ haccepts
  have hselected : own.group.icons.filter (fun icon => accepts icon.name) =
      before.filter (fun icon => accepts icon.name) ++
        old :: behind.filter fun icon => accepts icon.name := by
    simp [hicons, haccepts]
  have hselected' : own'.group.icons.filter (fun icon => accepts icon.name) =
      before.filter (fun icon => accepts icon.name) ++
        new :: behind.filter fun icon => accepts icon.name := by
    simp [hicons', haccepts']
  have hnames : (own.group.icons.filter fun icon => accepts icon.name).map IconSource.name =
      (own'.group.icons.filter fun icon => accepts icon.name).map IconSource.name := by
    simp [hselected, hselected', hname]
  obtain ⟨hslot, hlast⟩ := @slotsOf_congr generator accepts _ _ names hnames
  obtain ⟨huses, rfl⟩ := runPart_uses h.part
  obtain ⟨huses', rfl⟩ := runPart_uses h'.part
  obtain ⟨-, between, -, hobject, hbuild⟩ := runPart_ok h.part
  obtain ⟨-, between', -, hobject', hbuild'⟩ := runPart_ok h'.part
  refine ⟨⟨hclasses, ?_, ?_, ?_, ?_⟩, hlast⟩
  case refine_1 =>
    obtain ⟨earlier, slot, later, hjobs, hjobs'⟩ := exists_jobs_append_cons names
      (before.filter fun icon => accepts icon.name) (behind.filter fun icon => accepts icon.name)
      hname
    rw [h.outcomes, h'.outcomes, outcomes, outcomes, hselected, hselected', hjobs, hjobs',
      hclasses.package, hclass, List.map_append, List.map_append, List.map_cons, List.map_cons]
    exact ⟨_, slot, _, _, _, rfl, rfl⟩
  case refine_2 =>
    rw [hclass, hobject', Except.ok.injEq] at hobject
    exact hobject.symm
  case refine_3 => exact huses.collection.symm.trans (hslot.trans huses'.collection)
  case refine_4 =>
    have hhandle := (GroupCollection.build_eq_ok hbuild).2.1
    rw [hclass] at hhandle
    exact hhandle.trans ((GroupCollection.build_eq_ok hbuild').2.1).symm

theorem alike_of_isStep_of_rejected (hname : old.name = new.name)
    (hrejects : accepts old.name = false) (hgroup : own.group.HasChanged old new own'.group)
    (h : own.IsStep generator accepts names after)
    (h' : own'.IsStep generator accepts names after') : own.Alike own' ∧ after = after' := by
  obtain ⟨hclasses, before, behind, hicons, hicons'⟩ := hgroup
  have hrejects' : accepts new.name = false := hname ▸ hrejects
  exact alike_of_isStep hclasses (by simp [hicons, hicons', hrejects, hrejects'])
    (by simp [hicons, hicons']) h h'

end Generator

/-! ### Runs of trees that differ in one icon -/

/-- If one icon of a tree is exchanged for another of the same name, and both trees are generated,
then no icon but this one sees it: the other icons keep their slots and become what they were, and
so do all classes and all collections but the one of the group of the icon, which keeps its slot. An
icon that is not accepted is not seen at all. -/
theorem generateWith_of_changesIcon {parser : IconParser} {accepts : String → Bool}
    {config : GenerationConfig} {old new : IconSource} {root root' : IconGroup}
    {output output' : GroupOutput} (hchange : root.ChangesIcon old new root')
    (hname : old.name = new.name) (h : generateWith parser root accepts config = .ok output)
    (h' : generateWith parser root' accepts config = .ok output') :
    ∃ earlier own later earlier' own' later' after,
      (config.generator parser).Runs accepts root.inOrder .empty (earlier ++ own :: later) after ∧
        (config.generator parser).Runs accepts root'.inOrder .empty (earlier' ++ own' :: later')
          after ∧
        output = (Totals.ofParts ((earlier ++ own :: later).map GroupRun.part)).output root
          config.collectionName ∧
        output' = (Totals.ofParts ((earlier' ++ own' :: later').map GroupRun.part)).output root'
          config.collectionName ∧
        List.Forall₂ GroupRun.Alike earlier earlier' ∧ List.Forall₂ GroupRun.Alike later later' ∧
          if accepts old.name then own.HasChanged old new own' else own.Alike own' := by
  obtain ⟨groups, group, groupsAfter, groups', group', groupsAfter', horder, horder', hbefore,
    hgroup, hbehind⟩ := hchange.inOrder
  obtain ⟨parts, after, hparts, rfl⟩ := generateWith_ok h
  obtain ⟨parts', after', hparts', rfl⟩ := generateWith_ok h'
  obtain ⟨run, hrun, rfl⟩ := Generator.exists_runs hparts
  obtain ⟨run', hrun', rfl⟩ := Generator.exists_runs hparts'
  obtain ⟨between, earlier, rest, rfl, hearlier, hrest⟩ := (horder ▸ hrun).append_inv
  obtain ⟨between', earlier', rest', rfl, hearlier', hrest'⟩ := (horder' ▸ hrun').append_inv
  obtain ⟨hsame, rfl⟩ := Generator.forall₂_alike_of_runs hbefore hearlier hearlier'
  cases hrest with
  | @cons own _ later _ left _ hstep hlater =>
    cases hrest' with
    | @cons own' _ later' _ left' _ hstep' hlater' =>
      have hchanged : (if accepts old.name then own.HasChanged old new own' else own.Alike own') ∧
          left = left' := by
        split
        · next haccepts =>
          exact Generator.hasChanged_of_isStep hname haccepts hgroup hstep hstep'
        · next hrejects =>
          rw [Bool.not_eq_true] at hrejects
          exact Generator.alike_of_isStep_of_rejected hname hrejects hgroup hstep hstep'
      obtain ⟨hown, rfl⟩ := hchanged
      obtain ⟨hothers, rfl⟩ := Generator.forall₂_alike_of_runs hbehind hlater hlater'
      exact ⟨earlier, own, later, earlier', own', later', after, hrun, hrun', rfl, rfl, hsame,
        hothers, hown⟩

def contentsParser : IconParser := fun source =>
  if source.contents = "" then .error .malformed else .ok (.square (.zero false) [])

/-- A group with a child group, in which one icon has given contents. -/
def withFolder (contents : String) : IconGroup :=
  ⟨"icons", "Icons", [⟨"File", "", "M"⟩],
    [⟨"icons.actions", "Actions", [⟨"Add", "", "M"⟩, ⟨"Folder", "", contents⟩], []⟩]⟩

/-- An icon that fails, and the same icon with contents that can be read. -/
theorem withFolder_generated :
    ∃ output output' run run' after,
      generateWith contentsParser (withFolder "") (fun _ => true) .sequential = .ok output ∧
        generateWith contentsParser (withFolder "M") (fun _ => true) .sequential = .ok output' ∧
        output.failures = [⟨"Folder", "", .source .malformed⟩] ∧ output'.failures = [] ∧
        (GenerationConfig.sequential.generator contentsParser).Runs (fun _ => true)
          (withFolder "").inOrder .empty run after ∧
        (GenerationConfig.sequential.generator contentsParser).Runs (fun _ => true)
          (withFolder "M").inOrder .empty run' after ∧
        ∃ own ∈ run, ∃ own' ∈ run', own.HasChanged ⟨"Folder", "", ""⟩ ⟨"Folder", "", "M"⟩ own' := by
  have hfailures : (generateWith contentsParser (withFolder "") (fun _ => true) .sequential).map
      GroupOutput.failures = .ok [⟨"Folder", "", .source .malformed⟩] := by
    decide +kernel
  have hfailures' : (generateWith contentsParser (withFolder "M") (fun _ => true) .sequential).map
      GroupOutput.failures = .ok [] := by
    decide +kernel
  obtain ⟨output, h, hbroken⟩ := map_eq_ok_iff.mp hfailures
  obtain ⟨output', h', hrepaired⟩ := map_eq_ok_iff.mp hfailures'
  have hchange : (withFolder "").ChangesIcon ⟨"Folder", "", ""⟩ ⟨"Folder", "", "M"⟩
      (withFolder "M") :=
    .inChild "icons" "Icons" [⟨"File", "", "M"⟩] [] []
      (.here "icons.actions" "Actions" [⟨"Add", "", "M"⟩] [] [])
  obtain ⟨earlier, own, later, earlier', own', later', after, hrun, hrun', -, -, -, -, hchanged⟩ :=
    generateWith_of_changesIcon hchange rfl h h'
  exact ⟨output, output', _, _, after, h, h', hbroken, hrepaired, hrun, hrun', own, by simp, own',
    by simp, hchanged⟩

end IconForge
