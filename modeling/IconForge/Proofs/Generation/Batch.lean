import IconForge.Generation.IconRun
import IconForge.Proofs.Imports.Growth
import IconForge.Proofs.Results

/-!
# The icons of one group

However the jobs of a group are scheduled, their results are settled in the order of the icons
(`runJobs_eq_settle`): the failures and the successes are those of the single jobs, unless the first
failure ends the run. An icon that is generated has the name of its source, and its file lies in the
package of the group under that name.
-/

namespace IconForge
namespace Generator

def successes (results : List (Except IconFailure IconOutput)) : List IconOutput :=
  results.filterMap Except.toOption

def failuresOf (results : List (Except IconFailure IconOutput)) : List IconFailure :=
  results.filterMap fun
    | .ok _ => none
    | .error failure => some failure

theorem settle_collect (results : List (Except IconFailure IconOutput)) :
    settle .collect results = .ok (successes results, failuresOf results) := by
  induction results with
  | nil => rfl
  | cons result others ih =>
    cases result with
    | ok icon =>
      rw [settle, ih]
      rfl
    | error failure =>
      rw [settle, ih]
      rfl

theorem settle_failFast (results : List (Except IconFailure IconOutput)) :
    settle .failFast results =
      match failuresOf results with
      | [] => .ok (successes results, [])
      | failure :: _ => .error failure := by
  induction results with
  | nil => rfl
  | cons result others ih =>
    cases result with
    | ok icon =>
      have hfailures : failuresOf (.ok icon :: others) = failuresOf others := rfl
      rw [settle, ih, hfailures]
      cases failuresOf others <;> rfl
    | error failure => rfl

theorem mapM_eq_settle {α : Type} (job : α → Except IconFailure IconOutput) (jobs : List α) :
    (do return (← jobs.mapM job, [])) = settle .failFast (jobs.map job) := by
  induction jobs with
  | nil => rfl
  | cons first others ih =>
    rw [List.map_cons, List.mapM_cons]
    cases hfirst : job first with
    | error failure => rfl
    | ok icon =>
      rw [settle, ← ih]
      cases others.mapM job <;> rfl

theorem runAll_eq_map {α β : Type} (job : α → β) (jobs : List α) :
    runAll job jobs = jobs.map job :=
  List.map_map

/-- Every schedule settles the results of the single jobs. -/
theorem runJobs_eq_settle {α : Type} (schedule : Schedule)
    (job : α → Except IconFailure IconOutput) (jobs : List α) :
    runJobs schedule job jobs = settle schedule.policy (jobs.map job) := by
  obtain ⟨policy, parallel⟩ := schedule
  cases parallel with
  | true => simp [runJobs, runAll_eq_map]
  | false =>
    cases policy with
    | failFast => exact mapM_eq_settle job jobs
    | collect => rfl

theorem settle_ok {policy : FailurePolicy} {results : List (Except IconFailure IconOutput)}
    {icons : List IconOutput} {failures : List IconFailure}
    (h : settle policy results = .ok (icons, failures)) :
    icons = successes results ∧ failures = failuresOf results := by
  cases policy with
  | collect =>
    rw [settle_collect] at h
    cases h
    exact ⟨rfl, rfl⟩
  | failFast =>
    rw [settle_failFast] at h
    split at h
    · next hnone =>
      cases h
      exact ⟨rfl, hnone.symm⟩
    · cases h

theorem mem_successes {results : List (Except IconFailure IconOutput)} {icon : IconOutput} :
    icon ∈ successes results ↔ .ok icon ∈ results := by
  rw [successes, List.mem_filterMap]
  constructor
  · rintro ⟨_ | icon, hresult, hicon⟩
    · cases hicon
    · cases hicon
      exact hresult
  · exact fun h => ⟨_, h, rfl⟩

end Generator

/-! ### One icon -/

theorem IconDeclaration.takenNames_package {declaration : IconDeclaration} {package : String}
    {groupClass : Symbol} {taken : ImportTable}
    (h : declaration.takenNames package groupClass = .ok taken) : taken.package = package := by
  simp only [takenNames, bind_eq_ok_iff] at h
  obtain ⟨named, hname, slotted, hslot, built, hbuilder, hclass⟩ := h
  have hbuilt : ImportTable.Extends (.empty package) built :=
    ((ImportTable.declare_ok hname).1.extends.trans
      (ImportTable.declare_ok hslot).1.extends).trans (ImportTable.declare_ok hbuilder).1.extends
  have htaken : built.Extends taken := by
    split at hclass
    · next adopted hadopt =>
      cases hclass
      exact (ImportTable.adopt_ok hadopt).1.extends
    · cases hclass
      exact built.assignAlias_extends groupClass _
  exact (hbuilt.trans htaken).package_eq

namespace Generator

theorem generateIcon_ok {generator : Generator} {package : String} {groupClass : Symbol}
    {source : IconSource} {slot : String} {icon : IconOutput}
    (h : generator.generateIcon package groupClass source slot = .ok icon) :
    icon.handle = .topLevel package source.name ∧ icon.file.package = package ∧
      icon.file.fileName = source.name := by
  simp only [generateIcon, IconDeclaration.build, IconDeclaration.toSourceFile, bind_eq_ok_iff,
    mapError_eq_ok_iff, pure_eq_ok_iff] at h
  obtain ⟨drawing, -, declaration, ⟨body, -, rfl⟩, file, ⟨taken, htaken, members, -, rfl⟩, rfl⟩ := h
  exact ⟨rfl, IconDeclaration.takenNames_package htaken, rfl⟩

/-- Every icon that is generated comes from an accepted source of the group. -/
theorem exists_source_of_mem {generator : Generator} {package : String} {groupClass : Symbol}
    {accepts : String → Bool} {sources : List IconSource} {names after : UsedNames}
    {output : IconsOutput}
    (h : generator.runIcons package groupClass accepts sources names = .ok (output, after)) :
    ∀ icon ∈ output.icons, ∃ source ∈ sources, accepts source.name = true ∧
      ∃ slot, generator.generateIcon package groupClass source slot = .ok icon := by
  simp only [runIcons, bind_eq_ok_iff, pure_eq_ok_iff, runJobs_eq_settle] at h
  obtain ⟨⟨icons, failures⟩, hsettle, heq⟩ := h
  cases heq
  intro icon hicon
  rw [(settle_ok hsettle).1, mem_successes, List.mem_map] at hicon
  obtain ⟨⟨source, slot⟩, hjob, hgenerate⟩ := hicon
  obtain ⟨hsource, haccepts⟩ := List.mem_filter.mp (List.of_mem_zip hjob).1
  exact ⟨source, hsource, haccepts, slot, hgenerate⟩

end Generator
end IconForge
