import IconForge.Proofs.DrawingCode.Built
import IconForge.Proofs.Generation.Parts
import IconForge.Proofs.Generation.Batch

/-!
# Where failures come from

Every failure that a run reports or ends with is the failure of one accepted icon of one of its
groups, generated alone.
-/

namespace IconForge
namespace Generator

variable {generator : Generator} {accepts : String → Bool}

def IsFailureOf (generator : Generator) (accepts : String → Bool) (group : IconGroup)
    (failure : IconFailure) : Prop :=
  ∃ source ∈ group.icons, accepts source.name = true ∧ ∃ slot,
    generator.generateIcon group.package group.classSymbol source slot = .error failure

theorem mem_failuresOf {results : List (Except IconFailure IconOutput)} {failure : IconFailure} :
    failure ∈ failuresOf results ↔ .error failure ∈ results := by
  rw [failuresOf, List.mem_filterMap]
  constructor
  · rintro ⟨_ | icon, hresult, hfailure⟩
    · cases hfailure
      exact hresult
    · cases hfailure
  · exact fun h => ⟨_, h, rfl⟩

theorem settle_error {policy : FailurePolicy} {results : List (Except IconFailure IconOutput)}
    {failure : IconFailure} (h : settle policy results = .error failure) :
    .error failure ∈ results := by
  cases policy with
  | collect =>
    rw [settle_collect] at h
    cases h
  | failFast =>
    rw [settle_failFast] at h
    split at h
    · cases h
    · next first others hfailures =>
      cases h
      exact mem_failuresOf.mp (hfailures ▸ List.mem_cons_self)

theorem isFailureOf_of_job {group : IconGroup} {slots : List String} {failure : IconFailure}
    (h : .error failure ∈
      ((group.icons.filter fun icon => accepts icon.name).zip slots).map fun (source, slot) =>
        generator.generateIcon group.package group.classSymbol source slot) :
    generator.IsFailureOf accepts group failure := by
  obtain ⟨⟨source, slot⟩, hjob, hfails⟩ := List.mem_map.mp h
  obtain ⟨hsource, haccepts⟩ := List.mem_filter.mp (List.of_mem_zip hjob).1
  exact ⟨source, hsource, haccepts, slot, hfails⟩

theorem runIcons_failures {group : IconGroup} {names after : UsedNames} {output : IconsOutput}
    (h : generator.runIcons group.package group.classSymbol accepts group.icons names =
      .ok (output, after)) :
    ∀ failure ∈ output.failures, generator.IsFailureOf accepts group failure := by
  simp only [runIcons, bind_eq_ok_iff, pure_eq_ok_iff, runJobs_eq_settle] at h
  obtain ⟨⟨icons, failures⟩, hsettle, heq⟩ := h
  cases heq
  intro failure hfailure
  rw [(settle_ok hsettle).2, mem_failuresOf] at hfailure
  exact isFailureOf_of_job hfailure

theorem runIcons_error {group : IconGroup} {names : UsedNames} {failure : IconFailure}
    (h : generator.runIcons group.package group.classSymbol accepts group.icons names =
      .error failure) : generator.IsFailureOf accepts group failure := by
  simp only [runIcons, bind_eq_error_iff, pure_ne_error, and_false, exists_false, or_false,
    runJobs_eq_settle] at h
  exact isFailureOf_of_job (settle_error h)

theorem runPart_error {group : IconGroup} {names : UsedNames} {failure : IconFailure}
    (h : generator.runPart accepts group names = .error (.icon failure)) :
    generator.IsFailureOf accepts group failure := by
  simp only [runPart, bind_eq_error_iff, mapError_eq_error_iff, pure_ne_error] at h
  rcases h with ⟨cause, hcause, heq⟩ | h
  · cases heq
    exact runIcons_error hcause
  · simp at h

theorem runParts_error {groups : List IconGroup} {names : UsedNames} {failure : IconFailure}
    (h : generator.runParts accepts groups names = .error (.icon failure)) :
    ∃ group ∈ groups, generator.IsFailureOf accepts group failure := by
  induction groups generalizing names with
  | nil => cases h
  | cons group others ih =>
    simp only [runParts, bind_eq_error_iff, pure_ne_error, and_false, exists_false,
      or_false] at h
    rcases h with hpart | ⟨part, -, hothers⟩
    · exact ⟨group, List.mem_cons_self, runPart_error hpart⟩
    · obtain ⟨other, hother, hfailure⟩ := ih hothers
      exact ⟨other, List.mem_cons_of_mem group hother, hfailure⟩

end Generator

theorem isFailureOf_of_generateWith {parser : IconParser} {root : IconGroup}
    {accepts : String → Bool} {config : GenerationConfig} {failure : IconFailure}
    (h : generateWith parser root accepts config = .error (.icon failure) ∨
      ∃ output, generateWith parser root accepts config = .ok output ∧
        failure ∈ output.failures) :
    ∃ group ∈ root.inOrder, (config.generator parser).IsFailureOf accepts group failure := by
  rcases h with herror | ⟨output, hok, hmem⟩
  · simp only [generateWith, bind_eq_error_iff, mapError_eq_error_iff, pure_ne_error, and_false,
      exists_false, or_false, Generator.runGroup_eq] at herror
    rcases herror with ⟨cause, -, heq⟩ | ⟨-, -, hparts⟩
    · cases heq
    · exact Generator.runParts_error hparts
  · obtain ⟨parts, after, hparts, rfl⟩ := generateWith_ok hok
    obtain ⟨hgroups, hruns⟩ := Generator.of_mem_parts hparts
    obtain ⟨part, hpart, hfailure⟩ := List.mem_flatMap.mp hmem
    obtain ⟨before, left, hrun⟩ := hruns part hpart
    refine ⟨part.group, hgroups ▸ List.mem_map.mpr ⟨part, hpart, rfl⟩, ?_⟩
    obtain ⟨-, between, hown, -⟩ := Generator.runPart_ok hrun
    exact Generator.runIcons_failures hown failure hfailure

end IconForge
