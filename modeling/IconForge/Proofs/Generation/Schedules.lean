import IconForge.Proofs.Generation.Initializers

/-!
# Schedules

A schedule says what a failure does to a run, and whether icons are built at the same time. The
latter changes nothing. A run that ends at its first failure and one that goes on agree up to this
failure, and it is the first one that the run that goes on reports. Without failures both answer the
same (`generateWith_scheduled`).
-/

namespace IconForge

def GenerationConfig.scheduled (config : GenerationConfig) (policy : FailurePolicy)
    (parallel : Bool) : GenerationConfig :=
  { config with schedule := ⟨policy, parallel⟩ }

/-- What a run with some failures and a result answers if the first failure ends it. -/
def untilFailure {α : Type} (failures : List IconFailure) (result : α) :
    Except GenerationError α :=
  match failures with
  | [] => .ok result
  | failure :: _ => .error (.icon failure)

namespace Generator

def scheduled (generator : Generator) (policy : FailurePolicy) (parallel : Bool) : Generator :=
  { generator with schedule := ⟨policy, parallel⟩ }

variable {generator : Generator} {accepts : String → Bool} {parallel parallel' : Bool}

/-! ### The icons of a group -/

section Icons

variable {package : String} {groupClass : Symbol} {icons : List IconSource}
  {names after : UsedNames} {own : IconsOutput}

/-- What becomes of each accepted icon of a group. -/
def iconResults (generator : Generator) (package : String) (groupClass : Symbol)
    (accepts : String → Bool) (icons : List IconSource) (names : UsedNames) :
    List (Except IconFailure IconOutput) :=
  (names.jobs (icons.filter fun icon => accepts icon.name)).map fun (source, slot) =>
    generator.generateIcon package groupClass source slot

theorem runIcons_scheduled (policy : FailurePolicy) (parallel : Bool) :
    (generator.scheduled policy parallel).runIcons package groupClass accepts icons names = (do
      let selected := icons.filter fun icon => accepts icon.name
      let selectedNames := selected.map IconSource.name
      let (generated, failures) ←
        settle policy (generator.iconResults package groupClass accepts icons names)
      return (⟨generated, failures, icons.length - selected.length⟩,
        ((names.reserveAll selectedNames).allocateSlots selectedNames).2)) := by
  simp only [runIcons, runJobs_eq_settle]
  rfl

theorem runIcons_failFast
    (h : (generator.scheduled .collect parallel).runIcons package groupClass accepts icons names =
      .ok (own, after)) :
    ((generator.scheduled .failFast parallel').runIcons package groupClass accepts icons
      names).mapError .icon = untilFailure own.failures (own, after) := by
  rw [runIcons_scheduled, settle_collect] at h
  rw [runIcons_scheduled, settle_failFast]
  cases h
  generalize generator.iconResults package groupClass accepts icons names = results
  cases hfailures : failuresOf results with
  | nil => simp only [untilFailure]; rfl
  | cons failure others => rfl

theorem runIcons_collect
    (h : (generator.scheduled .failFast parallel).runIcons package groupClass accepts icons names =
      .ok (own, after)) :
    own.failures = [] ∧
      (generator.scheduled .collect parallel').runIcons package groupClass accepts icons names =
        .ok (own, after) := by
  rw [runIcons_scheduled, settle_failFast] at h
  rw [runIcons_scheduled, settle_collect]
  generalize generator.iconResults package groupClass accepts icons names = results at h ⊢
  cases hfailures : failuresOf results with
  | nil =>
    rw [hfailures] at h
    cases h
    exact ⟨rfl, rfl⟩
  | cons failure others =>
    rw [hfailures] at h
    cases h

end Icons

/-! ### Groups -/

/-- The class and the collection of a group, given what has become of its icons. -/
def completePart (generator : Generator) (group : IconGroup) (own : IconsOutput)
    (names : UsedNames) : Except GenerationError (GroupPart × UsedNames) := do
  let object ← (generator.groupObject group.classSymbol).mapError (.collision group.package)
  let (collection, names) ←
    (GroupCollection.build group.classSymbol generator.collectionName generator.context.style
      own.handles (group.children.map IconGroup.classSymbol) names).mapError
        (.collision group.package)
  return (⟨group, own, object, collection⟩, names)

theorem runPart_scheduled (policy : FailurePolicy) (parallel : Bool) (group : IconGroup)
    (names : UsedNames) :
    (generator.scheduled policy parallel).runPart accepts group names = (do
      let (own, between) ← ((generator.scheduled policy parallel).runIcons group.package
        group.classSymbol accepts group.icons names).mapError .icon
      generator.completePart group own between) := rfl

theorem completePart_own {group : IconGroup} {own : IconsOutput} {names after : UsedNames}
    {part : GroupPart} (h : generator.completePart group own names = .ok (part, after)) :
    part.own = own := by
  simp only [completePart, bind_eq_ok_iff, pure_eq_ok_iff] at h
  obtain ⟨object, -, ⟨collection, last⟩, -, heq⟩ := h
  cases heq
  rfl

theorem runPart_parallel (policy : FailurePolicy) (group : IconGroup) (names : UsedNames) :
    (generator.scheduled policy parallel).runPart accepts group names =
      (generator.scheduled policy parallel').runPart accepts group names := by
  rw [runPart_scheduled, runPart_scheduled, runIcons_scheduled, runIcons_scheduled]

theorem runPart_failFast {group : IconGroup} {names after : UsedNames} {part : GroupPart}
    (h : (generator.scheduled .collect parallel).runPart accepts group names = .ok (part, after)) :
    (generator.scheduled .failFast parallel').runPart accepts group names =
      untilFailure part.own.failures (part, after) := by
  rw [runPart_scheduled, bind_eq_ok_iff] at h
  obtain ⟨⟨own, between⟩, hown, hcomplete⟩ := h
  rw [mapError_eq_ok_iff] at hown
  rw [runPart_scheduled, runIcons_failFast hown, completePart_own hcomplete]
  cases own.failures with
  | nil => exact hcomplete
  | cons failure others => rfl

theorem runPart_collect {group : IconGroup} {names after : UsedNames} {part : GroupPart}
    (h : (generator.scheduled .failFast parallel).runPart accepts group names = .ok (part, after)) :
    part.own.failures = [] ∧
      (generator.scheduled .collect parallel').runPart accepts group names = .ok (part, after) := by
  rw [runPart_scheduled, bind_eq_ok_iff] at h
  obtain ⟨⟨own, between⟩, hown, hcomplete⟩ := h
  rw [mapError_eq_ok_iff] at hown
  obtain ⟨hnone, hcollect⟩ := runIcons_collect hown
  rw [runPart_scheduled, completePart_own hcomplete, hcollect]
  exact ⟨hnone, hcomplete⟩

/-! ### Runs -/

theorem runParts_parallel (policy : FailurePolicy) (groups : List IconGroup) (names : UsedNames) :
    (generator.scheduled policy parallel).runParts accepts groups names =
      (generator.scheduled policy parallel').runParts accepts groups names := by
  induction groups generalizing names with
  | nil => rfl
  | cons group others ih =>
    have hpart : (generator.scheduled policy parallel).runPart accepts group names =
        (generator.scheduled policy parallel').runPart accepts group names :=
      runPart_parallel policy group names
    simp only [runParts, hpart, ih]

/-- The groups before the first failure are generated alike, and it ends the run. -/
theorem runParts_failFast {groups : List IconGroup} {names after : UsedNames}
    {parts : List GroupPart}
    (h : (generator.scheduled .collect parallel).runParts accepts groups names =
      .ok (parts, after)) :
    (generator.scheduled .failFast parallel').runParts accepts groups names =
      untilFailure (parts.flatMap fun part => part.own.failures) (parts, after) := by
  induction groups generalizing names parts with
  | nil =>
    cases h
    rfl
  | cons group others ih =>
    simp only [runParts, bind_eq_ok_iff, pure_eq_ok_iff] at h
    obtain ⟨⟨part, between⟩, hpart, ⟨rest, last⟩, hrest, heq⟩ := h
    cases heq
    rw [runParts, runPart_failFast hpart, List.flatMap_cons]
    cases part.own.failures with
    | cons failure more => rfl
    | nil =>
      change ((generator.scheduled .failFast parallel').runParts accepts others between >>=
        fun later => pure (part :: later.1, later.2)) = _
      rw [ih hrest, List.nil_append]
      cases rest.flatMap fun part => part.own.failures with
      | nil => rfl
      | cons failure more => rfl

theorem runParts_collect {groups : List IconGroup} {names after : UsedNames}
    {parts : List GroupPart}
    (h : (generator.scheduled .failFast parallel).runParts accepts groups names =
      .ok (parts, after)) :
    (parts.flatMap fun part => part.own.failures) = [] ∧
      (generator.scheduled .collect parallel').runParts accepts groups names =
        .ok (parts, after) := by
  induction groups generalizing names parts with
  | nil =>
    cases h
    exact ⟨rfl, rfl⟩
  | cons group others ih =>
    simp only [runParts, bind_eq_ok_iff, pure_eq_ok_iff] at h
    obtain ⟨⟨part, between⟩, hpart, ⟨rest, last⟩, hrest, heq⟩ := h
    cases heq
    obtain ⟨hnone, hcollect⟩ : part.own.failures = [] ∧
        (generator.scheduled .collect parallel').runPart accepts group names =
          .ok (part, between) := runPart_collect hpart
    obtain ⟨hothers, hcollects⟩ := ih hrest
    constructor
    · rw [List.flatMap_cons, hnone, hothers, List.nil_append]
    · rw [runParts, hcollect]
      simp only [hcollects, bind, Except.bind, pure, Except.pure]

end Generator

variable {parser : IconParser} {root : IconGroup} {accepts : String → Bool}
  {config : GenerationConfig}

theorem generateWith_eq (policy : FailurePolicy) (parallel : Bool) :
    generateWith parser root accepts (config.scheduled policy parallel) = (do
      config.theme.check.mapError .theme
      let (parts, _) ← ((config.generator parser).scheduled policy parallel).runParts accepts
        root.inOrder .empty
      return (Totals.ofParts parts).output root config.collectionName) := by
  simp only [generateWith, Generator.runGroup_eq, bind_assoc, pure_bind]
  rfl

theorem generateWith_failFast {output : GroupOutput} {parallel parallel' : Bool}
    (h : generateWith parser root accepts (config.scheduled .collect parallel) = .ok output) :
    generateWith parser root accepts (config.scheduled .failFast parallel') =
      untilFailure output.failures output := by
  rw [generateWith_eq] at h
  simp only [bind_eq_ok_iff, pure_eq_ok_iff] at h
  obtain ⟨checked, hcheck, ⟨parts, after⟩, hparts, rfl⟩ := h
  rw [generateWith_eq, hcheck, Generator.runParts_failFast hparts]
  have hfailures : ((Totals.ofParts parts).output root config.collectionName).failures =
      parts.flatMap fun part => part.own.failures := rfl
  rw [hfailures]
  cases parts.flatMap fun part => part.own.failures with
  | nil => rfl
  | cons failure others => rfl

theorem generateWith_collect {output : GroupOutput} {parallel parallel' : Bool}
    (h : generateWith parser root accepts (config.scheduled .failFast parallel) = .ok output) :
    output.failures = [] ∧
      generateWith parser root accepts (config.scheduled .collect parallel') = .ok output := by
  rw [generateWith_eq] at h
  simp only [bind_eq_ok_iff, pure_eq_ok_iff] at h
  obtain ⟨checked, hcheck, ⟨parts, after⟩, hparts, rfl⟩ := h
  obtain ⟨hnone, hcollect⟩ := Generator.runParts_collect hparts
  refine ⟨hnone, ?_⟩
  rw [generateWith_eq, hcheck, hcollect]
  rfl

/-- Building icons at the same time changes nothing. A run that ends at its first failure answers
what the run that goes on answers, if this one reports no failure, and otherwise fails with the
first failure that it reports. -/
theorem generateWith_scheduled (parser : IconParser) (root : IconGroup) (accepts : String → Bool)
    (config : GenerationConfig) :
    (∀ policy parallel parallel',
      generateWith parser root accepts (config.scheduled policy parallel) =
        generateWith parser root accepts (config.scheduled policy parallel')) ∧
      (∀ output parallel parallel',
        generateWith parser root accepts (config.scheduled .collect parallel) = .ok output →
          generateWith parser root accepts (config.scheduled .failFast parallel') =
            untilFailure output.failures output) ∧
      ∀ output parallel parallel',
        generateWith parser root accepts (config.scheduled .failFast parallel) = .ok output →
          output.failures = [] ∧
            generateWith parser root accepts (config.scheduled .collect parallel') =
              .ok output := by
  refine ⟨?_, ?_, ?_⟩
  · intro policy parallel parallel'
    rw [generateWith_eq, generateWith_eq, Generator.runParts_parallel]
  · intro output parallel parallel' h
    exact generateWith_failFast h
  · intro output parallel parallel' h
    exact generateWith_collect h

/-- One of the icons fails, and ends the run that does not go on. -/
theorem partlyBroken_scheduled :
    (∃ output,
      generateWith brittleParser partlyBroken (· ≠ "Hidden")
          (GenerationConfig.standard.scheduled .collect true) = .ok output ∧
        output.failures = [⟨"Broken", "", .source .malformed⟩] ∧
        ∀ parallel, generateWith brittleParser partlyBroken (· ≠ "Hidden")
            (GenerationConfig.standard.scheduled .failFast parallel) =
          .error (.icon ⟨"Broken", "", .source .malformed⟩)) ∧
      ∃ output,
        generateWith blankParser folderAndActions (fun _ => true)
            (GenerationConfig.standard.scheduled .failFast false) = .ok output ∧
          output.failures = [] ∧
          ∀ parallel, generateWith blankParser folderAndActions (fun _ => true)
            (GenerationConfig.standard.scheduled .collect parallel) = .ok output := by
  constructor
  · obtain ⟨hparallel, hfailFast, -⟩ := generateWith_scheduled brittleParser partlyBroken
      (· ≠ "Hidden") GenerationConfig.standard
    have hfailures : (generateWith brittleParser partlyBroken (· ≠ "Hidden")
        (GenerationConfig.standard.scheduled .collect false)).map GroupOutput.failures =
          .ok [⟨"Broken", "", .source .malformed⟩] := by
      decide +kernel
    obtain ⟨output, h, hfailed⟩ := map_eq_ok_iff.mp hfailures
    refine ⟨output, (hparallel .collect true false).trans h, hfailed, ?_⟩
    intro parallel
    rw [hfailFast output false parallel h, hfailed]
    rfl
  · obtain ⟨-, -, hcollect⟩ := generateWith_scheduled blankParser folderAndActions
      (fun _ => true) GenerationConfig.standard
    have hsuccess : (generateWith blankParser folderAndActions (fun _ => true)
        (GenerationConfig.standard.scheduled .failFast false)).toBool = true := by
      decide +kernel
    obtain ⟨output, h⟩ := exists_eq_ok_of_toBool hsuccess
    refine ⟨output, h, (hcollect output false true h).1, ?_⟩
    intro parallel
    exact (hcollect output false parallel h).2

end IconForge
