import IconForge.Code.SourceFile
import IconForge.Proofs.Imports.Growth
import Mathlib

/-!
# Texts of files

The text of a file is the line of its package, its import lines and its body. So each of its import
lines is part of it, and so is what every template of its body is rendered as.
-/

namespace IconForge
namespace Text

def IsPart (part text : String) : Prop := part.toList <:+: text.toList

namespace IsPart

variable {part text : String}

theorem trans {whole : String} (h : IsPart part text) (h' : IsPart text whole) :
    IsPart part whole :=
  List.IsInfix.trans h h'

theorem append_left (h : IsPart part text) (before : String) : IsPart part (before ++ text) := by
  rw [IsPart, String.toList_append]
  exact List.infix_append_of_infix_right h

theorem append_right (h : IsPart part text) (after : String) : IsPart part (text ++ after) := by
  rw [IsPart, String.toList_append]
  exact List.infix_append_of_infix_left h

end IsPart

theorem isPart_refl (text : String) : IsPart text text := List.infix_rfl

theorem isPart_join {part : String} {parts : List String} (h : part ∈ parts) :
    IsPart part (String.join parts) := by
  have hparts : parts.flatMap String.toList = (parts.map String.toList).flatten := rfl
  rw [IsPart, String.toList_join, hparts]
  exact List.infix_of_mem_flatten (List.mem_map_of_mem h)

end Text

open Text (IsPart isPart_refl isPart_join)

/-- Lines and an empty one after them, or nothing if there are none. -/
def paragraph (lines : List String) : String :=
  if lines = [] then "" else String.join (lines.map (· ++ "\n")) ++ "\n"

theorem isPart_paragraph {line : String} {lines : List String} (h : line ∈ lines) :
    IsPart (line ++ "\n") (paragraph lines) := by
  have hmem : line ++ "\n" ∈ lines.map (· ++ "\n") := List.mem_map_of_mem h
  rw [paragraph, if_neg (List.ne_nil_of_mem h)]
  exact (isPart_join hmem).append_right "\n"

namespace Instruction

def WritesTemplate (instruction : Instruction) : Prop :=
  instruction.kind = .statement ∨ instruction.kind = .openBlock ∨ instruction.kind = .closeBlock

variable {instruction : Instruction}

theorem isPart_render (h : instruction.WritesTemplate) (imports : ImportTable) (indent : String)
    (depth : Nat) :
    IsPart (instruction.template.render imports) (instruction.render imports indent depth) := by
  have hself := isPart_refl (instruction.template.render imports)
  rcases h with h | h | h
  · simp only [render, h]
    exact (hself.append_left _).append_right _
  · by_cases hempty : (instruction.template.render imports).isEmpty = true
    · simp [String.isEmpty_iff.mp hempty, IsPart]
    · simp only [render, h, hempty]
      exact ((hself.append_right " ").append_left _).append_right _
  · simp only [render, h]
    exact (hself.append_left _).append_right _

theorem isPart_statement (template : Template) (imports : ImportTable) (indent : String)
    (depth : Nat) :
    IsPart (template.render imports ++ "\n")
      ((statement template).render imports indent depth) := by
  simp only [render, statement, String.append_assoc]
  exact (isPart_refl _).append_left _

end Instruction

namespace CodeBlock

variable {instruction : Instruction} {block : CodeBlock}

theorem exists_mem_renderFrom (imports : ImportTable) (indent : String)
    (h : instruction ∈ block) (depth : Nat) :
    ∃ level, instruction.render imports indent level ∈ renderFrom imports indent depth block := by
  induction block generalizing depth with
  | nil => simp at h
  | cons first others ih =>
    rcases List.mem_cons.mp h with rfl | hmem
    · exact ⟨depth, List.mem_cons_self⟩
    · obtain ⟨level, hlevel⟩ := ih hmem (first.kind.depthAfter depth)
      exact ⟨level, List.mem_cons_of_mem _ hlevel⟩

theorem isPart_render (imports : ImportTable) (indent : String) (h : instruction ∈ block) :
    ∃ level, IsPart (instruction.render imports indent level) (block.render imports indent) := by
  obtain ⟨level, hlevel⟩ := exists_mem_renderFrom imports indent h 0
  exact ⟨level, isPart_join hlevel⟩

end CodeBlock

namespace SourceFile

theorem importsOf_package (imports : ImportTable) (body : CodeBlock) :
    (importsOf imports body).package = imports.package := by
  unfold importsOf
  induction body.symbols generalizing imports with
  | nil => rfl
  | cons symbol others ih =>
    exact (ih _).trans (imports.reference_spec symbol).1.package_eq

theorem contentsOf_eq (imports : ImportTable) (indent : String) (body : CodeBlock) :
    contentsOf imports indent body =
      paragraph (if imports.package = "" then [] else ["package " ++ imports.package]) ++
        paragraph imports.lines ++ body.render imports indent := by
  unfold contentsOf paragraph
  by_cases hpackage : imports.package = "" <;> cases imports.lines <;>
    simp [hpackage, String.join_cons, String.append_assoc]

/-- How a file is written with an import table and a body. -/
structure IsWritten (imports : ImportTable) (indent : String) (body : CodeBlock)
    (file : SourceFile) : Prop where
  package : file.package = imports.package
  contents : file.contents =
    paragraph (if file.package = "" then [] else ["package " ++ file.package]) ++
      paragraph imports.lines ++ body.render imports indent
  lines : ∀ line ∈ imports.lines, IsPart (line ++ "\n") file.contents
  templates : ∀ instruction ∈ body, instruction.WritesTemplate →
    IsPart (instruction.template.render imports) file.contents
  statements : ∀ template, Instruction.statement template ∈ body →
    IsPart (template.render imports ++ "\n") file.contents

theorem ofMembers_isWritten (taken : ImportTable) (fileName indent : String)
    (members : List CodeBlock) :
    let body := CodeBlock.joinMembers members
    IsWritten (importsOf taken body) indent body (ofMembers taken fileName indent members) := by
  intro body
  have hpackage : (importsOf taken body).package = taken.package := importsOf_package taken body
  have hcontents : (ofMembers taken fileName indent members).contents = _ :=
    contentsOf_eq (importsOf taken body) indent body
  have hinstruction {instruction : Instruction} (h : instruction ∈ body) :
      ∃ level, IsPart (instruction.render (importsOf taken body) indent level)
        (ofMembers taken fileName indent members).contents := by
    obtain ⟨level, hlevel⟩ := CodeBlock.isPart_render (importsOf taken body) indent h
    rw [hcontents]
    exact ⟨level, hlevel.append_left _⟩
  constructor
  case package => exact hpackage.symm
  case contents =>
    rw [hcontents, hpackage]
    rfl
  case lines =>
    intro line hline
    rw [hcontents]
    exact ((isPart_paragraph hline).append_left _).append_right _
  case templates =>
    intro instruction hmem hwrites
    obtain ⟨level, hlevel⟩ := hinstruction hmem
    exact (instruction.isPart_render hwrites _ indent level).trans hlevel
  case statements =>
    intro template hmem
    obtain ⟨level, hlevel⟩ := hinstruction hmem
    exact (Instruction.isPart_statement template _ indent level).trans hlevel

end SourceFile
end IconForge
