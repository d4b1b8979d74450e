import IconForge.Proofs.Generation.Independence
import IconForge.Proofs.Generation.Schedules

/-!
# What a run accounts for

Every icon of a tree is generated, or fails, or is not accepted, and a run counts it as what it is
(`generateWith_accounts`). The files of a group are those of its icons that were generated, in the
order of the accepted ones, then the class and the collection; they follow the files of the groups
below it. Failures are reported in the same order.
-/

namespace IconForge

/-! ### The icons of a tree -/

namespace IconGroup

/-- The icons of a group and of all groups below it, in the order of generation. -/
def allIcons (root : IconGroup) : List IconSource := root.inOrder.flatMap IconGroup.icons

mutual

theorem iconCount_eq (group : IconGroup) : group.iconCount = group.allIcons.length := by
  match group with
  | ⟨package, className, icons, children⟩ =>
    rw [iconCount, allIcons, inOrder, List.flatMap_append, List.length_append,
      iconCounts_eq children, Nat.add_comm]
    simp

theorem iconCounts_eq (groups : List IconGroup) :
    iconCounts groups = ((inOrders groups).flatMap IconGroup.icons).length := by
  match groups with
  | [] => rfl
  | group :: others =>
    rw [iconCounts, inOrders, List.flatMap_append, List.length_append, iconCount_eq group,
      iconCounts_eq others, allIcons]

end

end IconGroup

/-! ### The icons of a group -/

namespace Generator

variable {generator : Generator} {accepts : String → Bool} {names after : UsedNames}

theorem length_successes_add (results : List (Except IconFailure IconOutput)) :
    (successes results).length + (failuresOf results).length = results.length := by
  induction results with
  | nil => rfl
  | cons result others ih =>
    cases result with
    | ok icon =>
      change (successes others).length + 1 + (failuresOf others).length = others.length + 1
      omega
    | error failure =>
      change (successes others).length + ((failuresOf others).length + 1) = others.length + 1
      omega

theorem of_generateIcon_error {package : String} {groupClass : Symbol} {source : IconSource}
    {slot : String} {failure : IconFailure}
    (h : generator.generateIcon package groupClass source slot = .error failure) :
    failure.icon = source.name ∧ failure.origin = source.origin := by
  unfold generateIcon at h
  obtain ⟨cause, -, rfl⟩ := mapError_eq_error_iff.mp h
  exact ⟨rfl, rfl⟩

end Generator

namespace GroupRun

def files (own : GroupRun) : List SourceFile :=
  (Generator.successes own.results).map IconOutput.file ++ [own.object, own.collection.file]

def failures (own : GroupRun) : List IconFailure := Generator.failuresOf own.results

theorem part_files (own : GroupRun) : own.part.files = own.files := rfl

/-- The outcomes and the files of a group that is generated. -/
structure IsAccounted (generator : Generator) (accepts : String → Bool) (own : GroupRun) :
    Prop where
  /-- There is an outcome for each accepted icon, in their order. -/
  sources : own.outcomes.map IconOutcome.source =
    own.group.icons.filter fun icon => accepts icon.name
  /-- It is what becomes of the icon alone. -/
  results : ∀ outcome ∈ own.outcomes, outcome.result =
    generator.generateIcon own.group.package own.group.classSymbol outcome.source outcome.slot
  generated : ∀ outcome ∈ own.outcomes, ∀ icon, outcome.result = .ok icon →
    icon.file.package = own.group.package ∧ icon.file.fileName = outcome.source.name
  failed : ∀ outcome ∈ own.outcomes, ∀ failure, outcome.result = .error failure →
    failure.icon = outcome.source.name ∧ failure.origin = outcome.source.origin
  object : own.object.package = own.group.package ∧ own.object.fileName = own.group.className
  collection : own.collection.file.package = own.group.package ∧
    own.collection.file.fileName = generator.collectionName

variable {generator : Generator} {accepts : String → Bool} {names after : UsedNames}
  {own : GroupRun}

theorem IsStep.isAccounted (h : own.IsStep generator accepts names after) :
    own.IsAccounted generator accepts := by
  have hresults : ∀ outcome ∈ own.outcomes, outcome.result =
      generator.generateIcon own.group.package own.group.classSymbol outcome.source
        outcome.slot := by
    intro outcome hmem
    rw [h.outcomes, Generator.outcomes, List.mem_map] at hmem
    obtain ⟨job, -, rfl⟩ := hmem
    rfl
  have hplaced := Generator.runPart_isPlaced h.part
  have hobject : own.object ∈ own.part.files := by simp [part_files, files]
  have hcollection : own.collection.file ∈ own.part.files := by simp [part_files, files]
  constructor
  case sources =>
    rw [h.outcomes, Generator.outcomes, List.map_map]
    exact names.jobs_map_fst _
  case results => exact hresults
  case generated =>
    intro outcome hmem icon hicon
    rw [hresults outcome hmem] at hicon
    exact (Generator.generateIcon_ok hicon).2
  case failed =>
    intro outcome hmem failure hfailure
    rw [hresults outcome hmem] at hfailure
    exact Generator.of_generateIcon_error hfailure
  case object =>
    obtain ⟨-, between, -, hbuilt, -⟩ := Generator.runPart_ok h.part
    exact ⟨hplaced.package_eq _ hobject, (Generator.groupObject_ok hbuilt).2⟩
  case collection =>
    refine ⟨hplaced.package_eq _ hcollection, ?_⟩
    obtain ⟨-, between, -, -, hbuilt⟩ := Generator.runPart_ok h.part
    obtain ⟨-, -, taken, -, hfile⟩ := GroupCollection.build_eq_ok hbuilt
    exact congrArg SourceFile.fileName hfile

theorem IsStep.length_outcomes (h : own.IsStep generator accepts names after) :
    own.outcomes.length = (own.group.icons.filter fun icon => accepts icon.name).length := by
  rw [h.outcomes, Generator.length_outcomes]

theorem IsStep.length_results (h : own.IsStep generator accepts names after) :
    (Generator.successes own.results).length + own.failures.length =
      (own.group.icons.filter fun icon => accepts icon.name).length := by
  rw [failures, Generator.length_successes_add, results, List.length_map, h.length_outcomes]

theorem IsStep.skipped_eq (h : own.IsStep generator accepts names after) :
    own.part.own.skipped = (own.group.icons.filter fun icon => ! accepts icon.name).length := by
  have hsplit := own.group.icons.length_eq_length_filter_add fun icon => accepts icon.name
  change own.group.icons.length - own.outcomes.length = _
  rw [h.length_outcomes]
  omega

end GroupRun

/-! ### Runs -/

namespace Generator

variable {generator : Generator} {accepts : String → Bool} {names after : UsedNames}
  {groups : List IconGroup} {run : List GroupRun}

theorem Runs.map_group (h : generator.Runs accepts groups names run after) :
    run.map GroupRun.group = groups := by
  induction h with
  | nil => rfl
  | cons hstep hothers ih => rw [List.map_cons, ih]

theorem Runs.isAccounted (h : generator.Runs accepts groups names run after) :
    ∀ own ∈ run, own.IsAccounted generator accepts := by
  induction h with
  | nil => simp
  | cons hstep hothers ih => exact List.forall_mem_cons.mpr ⟨hstep.isAccounted, ih⟩

/-- What a run adds up is what its groups add. -/
theorem totals_eq (run : List GroupRun) :
    Totals.ofParts (run.map GroupRun.part) =
      { files := run.flatMap GroupRun.files
        failures := run.flatMap GroupRun.failures
        generated := (run.flatMap fun own => successes own.results).length
        skipped := (run.map fun own => own.part.own.skipped).sum } := by
  rw [Totals.ofParts, List.flatMap_map, List.flatMap_map, List.map_map, List.map_map,
    List.length_flatMap]
  rfl

theorem Runs.skipped_eq (h : generator.Runs accepts groups names run after) :
    (run.map fun own => own.part.own.skipped).sum =
      ((groups.flatMap IconGroup.icons).filter fun icon => ! accepts icon.name).length := by
  induction h with
  | nil => rfl
  | cons hstep hothers ih =>
    rw [List.map_cons, List.sum_cons, ih, hstep.skipped_eq, List.flatMap_cons,
      List.filter_append, List.length_append]

theorem Runs.length_results (h : generator.Runs accepts groups names run after) :
    (run.flatMap fun own => successes own.results).length +
        (run.flatMap GroupRun.failures).length =
      ((groups.flatMap IconGroup.icons).filter fun icon => accepts icon.name).length := by
  induction h with
  | nil => rfl
  | cons hstep hothers ih =>
    have hown := hstep.length_results
    simp only [List.flatMap_cons, List.length_append, List.filter_append]
    omega

end Generator

theorem failures_of_failFast {parser : IconParser} {root : IconGroup} {accepts : String → Bool}
    {config : GenerationConfig} {output : GroupOutput}
    (h : generateWith parser root accepts config = .ok output)
    (hpolicy : config.schedule.policy = .failFast) : output.failures = [] := by
  have hconfig : config = config.scheduled .failFast config.schedule.parallel := by
    rw [GenerationConfig.scheduled, ← hpolicy]
  rw [hconfig] at h
  have hcollect : output.failures = [] ∧
      generateWith parser root accepts (config.scheduled .collect false) = .ok output :=
    generateWith_collect h
  exact hcollect.1

/-- The icons of a tree that is generated are accounted for: each is generated, or reported as
failed, or skipped because it is not accepted. The files and the failures stand in the order of the
groups, those below a group before its own, and within a group in the order of its icons. A run that
ends at its first failure reports none. -/
theorem generateWith_accounts {parser : IconParser} {root : IconGroup} {accepts : String → Bool}
    {config : GenerationConfig} {output : GroupOutput}
    (h : generateWith parser root accepts config = .ok output) :
    (∃ run after,
      (config.generator parser).Runs accepts root.inOrder .empty run after ∧
        run.map GroupRun.group = root.inOrder ∧
        (∀ own ∈ run, own.IsAccounted (config.generator parser) accepts) ∧
        output.files = run.flatMap GroupRun.files ∧
        output.failures = run.flatMap GroupRun.failures ∧
        output.generated = (run.flatMap fun own => Generator.successes own.results).length) ∧
      output.skipped = (root.allIcons.filter fun icon => ! accepts icon.name).length ∧
      output.generated + output.failures.length + output.skipped = root.iconCount ∧
      (config.schedule.policy = .failFast → output.failures = []) := by
  obtain ⟨parts, after, hparts, rfl⟩ := generateWith_ok h
  obtain ⟨run, hrun, rfl⟩ := Generator.exists_runs hparts
  have hskipped := hrun.skipped_eq
  have hresults := hrun.length_results
  have hsplit := root.allIcons.length_eq_length_filter_add fun icon => accepts icon.name
  simp only [Generator.totals_eq, Totals.output]
  refine ⟨?_, hskipped, ?_, ?_⟩
  · exact ⟨run, after, hrun, hrun.map_group, hrun.isAccounted, rfl, rfl, rfl⟩
  · rw [root.iconCount_eq, hskipped, hresults]
    exact hsplit.symm
  · intro hpolicy
    have hnone := failures_of_failFast h hpolicy
    rwa [Generator.totals_eq] at hnone

/-- Of four icons, one cannot be read and one is not accepted; the other two are generated, that of
the child group first. Where nothing fails, a run that ends at its first failure goes through. -/
theorem partlyBroken_accounts :
    (∃ output,
      generateWith brittleParser partlyBroken (· ≠ "Hidden") .sequential = .ok output ∧
        partlyBroken.iconCount = 4 ∧ output.skipped = 1 ∧
        output.failures = [⟨"Broken", "", .source .malformed⟩] ∧ output.generated = 2 ∧
        output.files.map SourceFile.path =
          ["icons/actions/Add.kt", "icons/actions/Actions.kt", "icons/actions/AllIcons.kt",
            "icons/Folder.kt", "icons/Icons.kt", "icons/AllIcons.kt"]) ∧
      ∃ output,
        generateWith blankParser folderAndActions (fun _ => true)
            (GenerationConfig.standard.scheduled .failFast false) = .ok output ∧
          output.failures = [] ∧ output.generated = 2 := by
  constructor
  · have houtput : (generateWith brittleParser partlyBroken (· ≠ "Hidden") .sequential).map
        (fun output => (output.failures, output.files.map SourceFile.path)) =
          .ok ([⟨"Broken", "", .source .malformed⟩],
            ["icons/actions/Add.kt", "icons/actions/Actions.kt", "icons/actions/AllIcons.kt",
              "icons/Folder.kt", "icons/Icons.kt", "icons/AllIcons.kt"]) := by
      decide +kernel
    obtain ⟨output, h, heq⟩ := map_eq_ok_iff.mp houtput
    obtain ⟨hfailures, hpaths⟩ := Prod.mk.inj heq
    obtain ⟨-, hskipped, hcount, -⟩ := generateWith_accounts h
    have hrejected : (partlyBroken.allIcons.filter fun icon => ! decide (icon.name ≠ "Hidden")) =
        [⟨"Hidden", "", ""⟩] := by
      decide
    have hall : partlyBroken.iconCount = 4 := by decide
    rw [hrejected, List.length_singleton] at hskipped
    rw [hskipped, hfailures, hall, List.length_singleton] at hcount
    exact ⟨output, h, hall, hskipped, hfailures, by omega, hpaths⟩
  · have hsuccess : (generateWith blankParser folderAndActions (fun _ => true)
        (GenerationConfig.standard.scheduled .failFast false)).toBool = true := by
      decide +kernel
    obtain ⟨output, h⟩ := exists_eq_ok_of_toBool hsuccess
    obtain ⟨-, hskipped, hcount, hnone⟩ := generateWith_accounts h
    have hrejected : (folderAndActions.allIcons.filter fun _ => ! true) = [] := by decide
    have hall : folderAndActions.iconCount = 2 := by decide
    rw [hrejected, List.length_nil] at hskipped
    rw [hskipped, hnone rfl, hall, List.length_nil] at hcount
    exact ⟨output, h, hnone rfl, by omega⟩

end IconForge
