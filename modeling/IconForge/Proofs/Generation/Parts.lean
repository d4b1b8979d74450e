import IconForge.Generation.GroupTree
import IconForge.Proofs.Generation.Collections

/-!
# A run as a sequence of groups

A tree of groups is generated one group after another, each after the groups below it. What a group
adds to the run depends on the groups before it only through the names in use, and what the run
answers is the sum of what the groups add (`runGroup_eq`).
-/

namespace IconForge

namespace IconGroup

mutual

/-- The groups of a tree in the order of their generation. -/
def inOrder : IconGroup → List IconGroup
  | ⟨package, className, icons, children⟩ =>
    inOrders children ++ [⟨package, className, icons, children⟩]

def inOrders : List IconGroup → List IconGroup
  | [] => []
  | group :: others => inOrder group ++ inOrders others

end

end IconGroup

/-- What is generated for one group alone. -/
structure GroupPart where
  group : IconGroup
  own : IconsOutput
  object : SourceFile
  collection : GroupCollection

/-- The icons, the class and the collection of the group. -/
def GroupPart.files (part : GroupPart) : List SourceFile :=
  part.own.icons.map IconOutput.file ++ [part.object, part.collection.file]

/-- What groups add to a run. -/
structure Totals where
  files : List SourceFile
  failures : List IconFailure
  generated : Nat
  skipped : Nat

namespace Totals

def ofParts (parts : List GroupPart) : Totals where
  files := parts.flatMap GroupPart.files
  failures := parts.flatMap fun part => part.own.failures
  generated := (parts.map fun part => part.own.icons.length).sum
  skipped := (parts.map fun part => part.own.skipped).sum

def ofOutputs (outputs : List GroupOutput) : Totals where
  files := outputs.flatMap GroupOutput.files
  failures := outputs.flatMap GroupOutput.failures
  generated := (outputs.map GroupOutput.generated).sum
  skipped := (outputs.map GroupOutput.skipped).sum

def append (first second : Totals) : Totals where
  files := first.files ++ second.files
  failures := first.failures ++ second.failures
  generated := first.generated + second.generated
  skipped := first.skipped + second.skipped

theorem ofParts_append (first second : List GroupPart) :
    ofParts (first ++ second) = (ofParts first).append (ofParts second) := by
  simp [ofParts, append]

/-- The output of a group, given what it and the groups below it add. -/
def output (totals : Totals) (group : IconGroup) (collection : String) : GroupOutput where
  handle := group.classSymbol
  collection := .extension group.package collection
  files := totals.files
  failures := totals.failures
  generated := totals.generated
  skipped := totals.skipped

theorem ofOutputs_cons (totals : Totals) (group : IconGroup) (collection : String)
    (outputs : List GroupOutput) :
    ofOutputs (totals.output group collection :: outputs) = totals.append (ofOutputs outputs) := by
  simp [ofOutputs, append, output]

end Totals

namespace Generator

variable (generator : Generator) (accepts : String → Bool)

def runPart (group : IconGroup) (names : UsedNames) :
    Except GenerationError (GroupPart × UsedNames) := do
  let (own, names) ←
    (generator.runIcons group.package group.classSymbol accepts group.icons names).mapError .icon
  let object ← (generator.groupObject group.classSymbol).mapError (.collision group.package)
  let (collection, names) ←
    (GroupCollection.build group.classSymbol generator.collectionName generator.context.style
      own.handles (group.children.map IconGroup.classSymbol) names).mapError
        (.collision group.package)
  return (⟨group, own, object, collection⟩, names)

/-- Generates groups one after another, each alone. -/
def runParts : List IconGroup → UsedNames → Except GenerationError (List GroupPart × UsedNames)
  | [], names => .ok ([], names)
  | group :: others, names => do
    let (part, names) ← runPart generator accepts group names
    let (parts, names) ← runParts others names
    return (part :: parts, names)

variable {generator accepts}

theorem runParts_append (first second : List IconGroup) (names : UsedNames) :
    generator.runParts accepts (first ++ second) names = (do
      let (parts, names) ← generator.runParts accepts first names
      let (others, names) ← generator.runParts accepts second names
      return (parts ++ others, names)) := by
  induction first generalizing names with
  | nil =>
    change generator.runParts accepts second names = (do
      let (others, names) ← generator.runParts accepts second names
      return (others, names))
    cases generator.runParts accepts second names <;> rfl
  | cons group others ih => simp only [List.cons_append, runParts, ih, bind_assoc, pure_bind]

/-- A group is generated like a part of the run, after which what its children add is put in
front. -/
theorem runOwn_eq (group : IconGroup) {children : List GroupOutput}
    (h : children.map GroupOutput.handle = group.children.map IconGroup.classSymbol)
    (names : UsedNames) :
    generator.runOwn accepts group.classSymbol group.icons children names = (do
      let (part, names) ← generator.runPart accepts group names
      return (((Totals.ofOutputs children).append (.ofParts [part])).output group
        generator.collectionName, names)) := by
  unfold runOwn runPart
  rw [h]
  have hpackage : group.classSymbol.package = group.package := rfl
  rw [hpackage]
  cases generator.runIcons group.package group.classSymbol accepts group.icons names with
  | error failure => rfl
  | ok own =>
    cases generator.groupObject group.classSymbol with
    | error collision => rfl
    | ok object =>
      simp only [Except.mapError, bind, Except.bind]
      cases hbuild :
        GroupCollection.build group.classSymbol generator.collectionName generator.context.style
          own.1.handles (group.children.map IconGroup.classSymbol) own.2 with
      | error collision => rfl
      | ok collection =>
        have hhandle := (GroupCollection.build_eq_ok hbuild).2.1
        simp [pure, Except.pure, Totals.output, Totals.append, Totals.ofParts, Totals.ofOutputs,
          GroupPart.files, hhandle, hpackage]

/-- Runs of groups and of their parts that end in the same way: of the outputs of groups, a run
sees no more than their classes and what they add. -/
inductive Agree (groups : List IconGroup) :
    Except GenerationError (List GroupOutput × UsedNames) →
      Except GenerationError (List GroupPart × UsedNames) → Prop
  | error (e : GenerationError) : Agree groups (.error e) (.error e)
  | ok {outputs : List GroupOutput} {parts : List GroupPart} (names : UsedNames)
      (handles : outputs.map GroupOutput.handle = groups.map IconGroup.classSymbol)
      (totals : Totals.ofOutputs outputs = .ofParts parts) :
      Agree groups (.ok (outputs, names)) (.ok (parts, names))

mutual

theorem runGroup_eq (group : IconGroup) (names : UsedNames) :
    generator.runGroup accepts group names = (do
      let (parts, names) ← generator.runParts accepts group.inOrder names
      return ((Totals.ofParts parts).output group generator.collectionName, names)) := by
  match group with
  | ⟨package, className, icons, children⟩ =>
    have ih := runGroups_agree children names
    rw [runGroup, IconGroup.inOrder, runParts_append]
    generalize generator.runGroups accepts children names = outputs at ih
    generalize generator.runParts accepts (IconGroup.inOrders children) names = parts at ih
    cases ih with
    | error e => rfl
    | ok names handles totals =>
      have hown :=
        @runOwn_eq generator accepts ⟨package, className, icons, children⟩ _ handles names
      refine hown.trans ?_
      simp only [bind, Except.bind, pure, Except.pure, runParts, totals]
      cases generator.runPart accepts ⟨package, className, icons, children⟩ names with
      | error e => rfl
      | ok part => simp [Totals.ofParts_append]

theorem runGroups_agree (groups : List IconGroup) (names : UsedNames) :
    Agree groups (generator.runGroups accepts groups names)
      (generator.runParts accepts (IconGroup.inOrders groups) names) := by
  match groups with
  | [] => exact .ok names rfl rfl
  | group :: others =>
    rw [runGroups, IconGroup.inOrders, runParts_append, runGroup_eq group names]
    cases generator.runParts accepts group.inOrder names with
    | error e => exact .error e
    | ok first =>
      have ih := runGroups_agree others first.2
      simp only [bind, Except.bind, pure, Except.pure]
      generalize generator.runGroups accepts others first.2 = outputs at ih
      generalize generator.runParts accepts (IconGroup.inOrders others) first.2 = parts at ih
      cases ih with
      | error e => exact .error e
      | ok names handles totals =>
        refine .ok names ?_ ?_
        · rw [List.map_cons, handles]
          rfl
        · rw [Totals.ofOutputs_cons, Totals.ofParts_append, totals]

end

theorem runPart_ok {group : IconGroup} {names after : UsedNames} {part : GroupPart}
    (h : generator.runPart accepts group names = .ok (part, after)) :
    part.group = group ∧ ∃ between,
      generator.runIcons group.package group.classSymbol accepts group.icons names =
          .ok (part.own, between) ∧
        generator.groupObject group.classSymbol = .ok part.object ∧
          GroupCollection.build group.classSymbol generator.collectionName generator.context.style
            part.own.handles (group.children.map IconGroup.classSymbol) between =
              .ok (part.collection, after) := by
  simp only [runPart, bind_eq_ok_iff, mapError_eq_ok_iff, pure_eq_ok_iff] at h
  obtain ⟨⟨own, between⟩, hown, object, hobject, ⟨collection, last⟩, hbuild, heq⟩ := h
  cases heq
  exact ⟨rfl, between, hown, hobject, hbuild⟩

/-- Every part is that of its group, generated alone with the names in use before it. -/
theorem of_mem_parts {groups : List IconGroup} {names after : UsedNames} {parts : List GroupPart}
    (h : generator.runParts accepts groups names = .ok (parts, after)) :
    parts.map GroupPart.group = groups ∧
      ∀ part ∈ parts, ∃ before left,
        generator.runPart accepts part.group before = .ok (part, left) := by
  induction groups generalizing names parts with
  | nil =>
    cases h
    simp
  | cons group others ih =>
    simp only [runParts, bind_eq_ok_iff, pure_eq_ok_iff] at h
    obtain ⟨⟨part, between⟩, hpart, ⟨rest, last⟩, hrest, heq⟩ := h
    cases heq
    obtain ⟨hgroups, hparts⟩ := ih hrest
    have hgroup : part.group = group := by
      simp only [runPart, bind_eq_ok_iff, pure_eq_ok_iff] at hpart
      obtain ⟨_, -, _, -, _, -, heq⟩ := hpart
      cases heq
      rfl
    refine ⟨by rw [List.map_cons, hgroup, hgroups], List.forall_mem_cons.mpr ⟨?_, hparts⟩⟩
    exact ⟨names, between, hgroup ▸ hpart⟩

end Generator

/-- The generator of a run with a parser of its own. -/
def GenerationConfig.generator (config : GenerationConfig) (parser : IconParser) : Generator :=
  ⟨parser, ⟨config.theme, config.style⟩, config.schedule, config.collectionName⟩

/-- A run of a tree answers what the parts of its groups add. -/
theorem generateWith_ok {parser : IconParser} {root : IconGroup} {accepts : String → Bool}
    {config : GenerationConfig} {output : GroupOutput}
    (h : generateWith parser root accepts config = .ok output) :
    ∃ parts after,
      (config.generator parser).runParts accepts root.inOrder .empty = .ok (parts, after) ∧
        output = (Totals.ofParts parts).output root config.collectionName := by
  simp only [generateWith, bind_eq_ok_iff, pure_eq_ok_iff, Generator.runGroup_eq] at h
  obtain ⟨_, -, _, ⟨⟨parts, after⟩, hparts, rfl⟩, rfl⟩ := h
  exact ⟨parts, after, hparts, rfl⟩

end IconForge
