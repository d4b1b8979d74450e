import IconForge.Proofs.Code.Pieces

/-!
# Templates built in steps

What a builder writes is what its steps write, one after another, however the steps are nested and
wherever their texts have percent signs (`Template.render_ofSteps`).
-/

namespace IconForge

mutual

def TemplateStep.written (imports : ImportTable) : TemplateStep → String
  | .text value => value
  | .argument (.member symbol) => imports.spelling symbol
  | .argument (.typeName symbol) => imports.spelling symbol
  | .argument (.name value) => value
  | .argument (.string value) => quote value
  | .append steps => TemplateStep.allWritten imports steps
  | .join parts separator => separator.intercalate (TemplateStep.partsWritten imports parts)

def TemplateStep.allWritten (imports : ImportTable) : List TemplateStep → String
  | [] => ""
  | step :: others => step.written imports ++ TemplateStep.allWritten imports others

def TemplateStep.partsWritten (imports : ImportTable) : List (List TemplateStep) → List String
  | [] => []
  | steps :: others =>
    TemplateStep.allWritten imports steps :: TemplateStep.partsWritten imports others

end

mutual

def TemplateStep.added : TemplateStep → List Argument
  | .text _ => []
  | .argument a => [a]
  | .append steps => TemplateStep.allAdded steps
  | .join parts _ => TemplateStep.partsAdded parts

def TemplateStep.allAdded : List TemplateStep → List Argument
  | [] => []
  | step :: others => step.added ++ TemplateStep.allAdded others

def TemplateStep.partsAdded : List (List TemplateStep) → List Argument
  | [] => []
  | steps :: others => TemplateStep.allAdded steps ++ TemplateStep.partsAdded others

end

namespace Template

mutual

theorem isBuilt_template (step : TemplateStep) : step.template.IsBuilt := by
  match step with
  | .text text => exact isBuilt_ofText text
  | .argument a => exact isBuilt_ofArgument a
  | .append steps => exact isBuilt_ofSteps steps
  | .join parts separator => exact IsBuilt.join separator (isBuilt_of_mem_ofParts parts)

theorem isBuilt_ofSteps (steps : List TemplateStep) : (ofSteps steps).IsBuilt := by
  match steps with
  | [] => exact isBuilt_empty
  | step :: others => exact (isBuilt_template step).append (isBuilt_ofSteps others)

theorem isBuilt_of_mem_ofParts (parts : List (List TemplateStep)) :
    ∀ t ∈ ofParts parts, t.IsBuilt := by
  match parts with
  | [] => simp [ofParts]
  | steps :: others =>
    rw [ofParts, List.forall_mem_cons]
    exact ⟨isBuilt_ofSteps steps, isBuilt_of_mem_ofParts others⟩

end

mutual

theorem render_template (imports : ImportTable) (step : TemplateStep) :
    step.template.render imports = step.written imports := by
  match step with
  | .text text => exact render_ofText imports text
  | .argument (.member symbol) => exact render_ofArgument imports _
  | .argument (.typeName symbol) => exact render_ofArgument imports _
  | .argument (.name text) => exact render_ofArgument imports _
  | .argument (.string text) => exact render_ofArgument imports _
  | .append steps => exact render_allWritten imports steps
  | .join parts separator =>
    rw [TemplateStep.template, render_join imports separator (isBuilt_of_mem_ofParts parts),
      render_partsWritten imports parts, TemplateStep.written]

theorem render_allWritten (imports : ImportTable) (steps : List TemplateStep) :
    (ofSteps steps).render imports = TemplateStep.allWritten imports steps := by
  match steps with
  | [] => rfl
  | step :: others =>
    rw [ofSteps, render_append imports (isBuilt_template step), render_template imports step,
      render_allWritten imports others, TemplateStep.allWritten]

theorem render_partsWritten (imports : ImportTable) (parts : List (List TemplateStep)) :
    (ofParts parts).map (render imports) = TemplateStep.partsWritten imports parts := by
  match parts with
  | [] => rfl
  | steps :: others =>
    rw [ofParts, List.map_cons, render_allWritten imports steps,
      render_partsWritten imports others, TemplateStep.partsWritten]

end

mutual

theorem arguments_template (step : TemplateStep) : step.template.arguments = step.added := by
  match step with
  | .text text => rfl
  | .argument a => rfl
  | .append steps => exact arguments_ofSteps steps
  | .join parts separator =>
    rw [TemplateStep.template, arguments_join, flatMap_arguments_ofParts parts, TemplateStep.added]

theorem arguments_ofSteps (steps : List TemplateStep) :
    (ofSteps steps).arguments = TemplateStep.allAdded steps := by
  match steps with
  | [] => rfl
  | step :: others =>
    rw [ofSteps, arguments_append, arguments_template step, arguments_ofSteps others,
      TemplateStep.allAdded]

theorem flatMap_arguments_ofParts (parts : List (List TemplateStep)) :
    (ofParts parts).flatMap arguments = TemplateStep.partsAdded parts := by
  match parts with
  | [] => rfl
  | steps :: others =>
    rw [ofParts, List.flatMap_cons, arguments_ofSteps steps, flatMap_arguments_ofParts others,
      TemplateStep.partsAdded]

end

/-- Whatever steps build a template: rendered, it is what the steps write one after another, its
placeholders are those of the arguments that the steps add, in order, and a check of both accepts
them. -/
theorem render_ofSteps (imports : ImportTable) (steps : List TemplateStep) :
    (ofSteps steps).render imports = TemplateStep.allWritten imports steps ∧
      (ofSteps steps).arguments = TemplateStep.allAdded steps ∧
        placeholders (ofSteps steps).text.toList =
            (TemplateStep.allAdded steps).map Argument.marker ∧
          ∀ kind, Instruction.checked kind (ofSteps steps).text (ofSteps steps).arguments =
            .ok ⟨kind, ofSteps steps⟩ := by
  have hmatched := (isBuilt_ofSteps steps).isMatched
  have harguments := arguments_ofSteps steps
  have hplaceholders : placeholders (ofSteps steps).text.toList =
      (TemplateStep.allAdded steps).map Argument.marker := by
    rw [← harguments]
    exact hmatched
  refine ⟨render_allWritten imports steps, harguments, hplaceholders, fun kind => ?_⟩
  rw [Instruction.checked, hmatched.checked_eq]
  rfl

end Template
end IconForge
