import IconForge.Proofs.Code.Pieces

/-!
# Outlines of blocks

An outline is the nesting of a block: lines, and regions in braces or only indented, one after
another. A block that has an outline closes no region that is not open and ends where it began, and
rendering it indents each line once for every region around it.
-/

namespace IconForge

/-- The parts of a block in their order, each with what follows it. -/
inductive Outline where
  | done
  | statement (template : Template) (next : Outline)
  | blank (next : Outline)
  /-- A region between a head and the line with its closing brace. -/
  | braces (head : Template) (body : Outline) (tail : Template) (next : Outline)
  | indented (body next : Outline)

namespace Outline

def instructions : Outline → CodeBlock
  | done => []
  | statement template next => .statement template :: next.instructions
  | blank next => .blank :: next.instructions
  | braces head body tail next =>
    .openBlock head :: (body.instructions ++ .closeBlockWith tail :: next.instructions)
  | indented body next => .indent :: (body.instructions ++ .unindent :: next.instructions)

/-- A line behind the indentation of some regions. -/
def line (indent : String) (regions : Nat) (text : String) : String :=
  String.join (List.replicate regions indent) ++ text ++ "\n"

def headText (head : String) : String := if head.isEmpty then "\x7b" else head ++ " \x7b"

def lines (imports : ImportTable) (indent : String) (regions : Nat) : Outline → List String
  | done => []
  | statement template next =>
    line indent regions (template.render imports) :: next.lines imports indent regions
  | blank next => "\n" :: next.lines imports indent regions
  | braces head body tail next =>
    line indent regions (headText (head.render imports)) ::
      (body.lines imports indent (regions + 1) ++
        line indent regions ("\x7d" ++ tail.render imports) :: next.lines imports indent regions)
  | indented body next =>
    body.lines imports indent (regions + 1) ++ next.lines imports indent regions

def append : Outline → Outline → Outline
  | done, last => last
  | statement template next, last => .statement template (next.append last)
  | blank next, last => .blank (next.append last)
  | braces head body tail next, last => .braces head body tail (next.append last)
  | indented body next, last => .indented body (next.append last)

theorem instructions_append (first last : Outline) :
    (first.append last).instructions = first.instructions ++ last.instructions := by
  induction first with
  | done => rfl
  | statement template next ih => simp [append, instructions, ih]
  | blank next ih => simp [append, instructions, ih]
  | braces head body tail next _ ih => simp [append, instructions, ih]
  | indented body next _ ih => simp [append, instructions, ih]

end Outline

namespace InstructionKind

def closesRegion : InstructionKind → Bool
  | closeBlock | unindent => true
  | statement | openBlock | indent | blank => false

end InstructionKind

namespace CodeBlock

/-- Every region that is closed has been opened, if the block stands at a depth. -/
def ClosesOpen : Nat → CodeBlock → Prop
  | _, [] => True
  | depth, instruction :: others =>
    (instruction.kind.closesRegion = true → 0 < depth) ∧
      ClosesOpen (instruction.kind.depthAfter depth) others

/-- The depth after a block that stands at a depth. -/
def depthAfter (depth : Nat) (block : CodeBlock) : Nat :=
  block.foldl (fun depth instruction => instruction.kind.depthAfter depth) depth

def textFrom (imports : ImportTable) (indent : String) (depth : Nat) (block : CodeBlock) : String :=
  String.join (renderFrom imports indent depth block)

end CodeBlock

namespace Outline

open CodeBlock

theorem closesOpen_append (outline : Outline) (depth : Nat) (rest : CodeBlock) :
    ClosesOpen depth (outline.instructions ++ rest) ↔ ClosesOpen depth rest := by
  induction outline generalizing depth rest with
  | done => rfl
  | statement template next ih =>
    exact (and_iff_right nofun).trans (ih depth rest)
  | blank next ih =>
    exact (and_iff_right nofun).trans (ih depth rest)
  | braces head body tail next ihbody ihnext =>
    rw [instructions, List.cons_append, List.append_assoc, ClosesOpen]
    refine (and_iff_right nofun).trans ((ihbody (depth + 1) _).trans ?_)
    exact (and_iff_right fun _ => depth.succ_pos).trans (ihnext depth rest)
  | indented body next ihbody ihnext =>
    rw [instructions, List.cons_append, List.append_assoc, ClosesOpen]
    refine (and_iff_right nofun).trans ((ihbody (depth + 1) _).trans ?_)
    exact (and_iff_right fun _ => depth.succ_pos).trans (ihnext depth rest)

theorem depthAfter_instructions (outline : Outline) (depth : Nat) :
    depthAfter depth outline.instructions = depth := by
  induction outline generalizing depth with
  | done => rfl
  | statement template next ih => exact ih depth
  | blank next ih => exact ih depth
  | braces head body tail next ihbody ihnext =>
    rw [instructions, depthAfter, List.foldl_cons, List.foldl_append, List.foldl_cons]
    change depthAfter (depthAfter (depth + 1) body.instructions - 1) next.instructions = depth
    rw [ihbody, Nat.add_sub_cancel, ihnext]
  | indented body next ihbody ihnext =>
    rw [instructions, depthAfter, List.foldl_cons, List.foldl_append, List.foldl_cons]
    change depthAfter (depthAfter (depth + 1) body.instructions - 1) next.instructions = depth
    rw [ihbody, Nat.add_sub_cancel, ihnext]

theorem textFrom_cons (imports : ImportTable) (indent : String) (depth : Nat)
    (instruction : Instruction) (others : CodeBlock) :
    textFrom imports indent depth (instruction :: others) =
      instruction.render imports indent depth ++
        textFrom imports indent (instruction.kind.depthAfter depth) others :=
  String.join_cons

theorem render_openBlock (imports : ImportTable) (indent : String) (depth : Nat) (head : Template) :
    (Instruction.openBlock head).render imports indent depth =
      line indent depth (headText (head.render imports)) := by
  by_cases hempty : head.render imports = "" <;>
    simp [Instruction.render, Instruction.openBlock, line, headText, hempty, String.append_assoc]

theorem render_closeBlockWith (imports : ImportTable) (indent : String) (depth : Nat)
    (tail : Template) :
    (Instruction.closeBlockWith tail).render imports indent (depth + 1) =
      line indent depth ("\x7d" ++ tail.render imports) := by
  simp [Instruction.render, Instruction.closeBlockWith, line, String.append_assoc]

/-- Where an outline is followed by other instructions, its lines come first, and the others are
indented as if it were not there. -/
theorem textFrom_append (imports : ImportTable) (indent : String) (outline : Outline) (depth : Nat)
    (rest : CodeBlock) :
    textFrom imports indent depth (outline.instructions ++ rest) =
      String.join (outline.lines imports indent depth) ++ textFrom imports indent depth rest := by
  induction outline generalizing depth rest with
  | done => simp [instructions, lines]
  | statement template next ih =>
    have hline : (Instruction.statement template).render imports indent depth =
        line indent depth (template.render imports) := rfl
    rw [instructions, List.cons_append, textFrom_cons, hline, lines, String.join_cons,
      String.append_assoc]
    exact congrArg _ (ih depth rest)
  | blank next ih =>
    rw [instructions, List.cons_append, textFrom_cons, lines, String.join_cons,
      String.append_assoc]
    exact congrArg _ (ih depth rest)
  | braces head body tail next ihbody ihnext =>
    have hrest : textFrom imports indent (depth + 1)
        (.closeBlockWith tail :: (next.instructions ++ rest)) =
          line indent depth ("\x7d" ++ tail.render imports) ++
            (String.join (next.lines imports indent depth) ++
              textFrom imports indent depth rest) := by
      rw [textFrom_cons, render_closeBlockWith]
      exact congrArg _ (ihnext depth rest)
    have hbody := ihbody (depth + 1) (.closeBlockWith tail :: (next.instructions ++ rest))
    rw [hrest] at hbody
    rw [instructions, List.cons_append, List.append_assoc, textFrom_cons, render_openBlock]
    refine (congrArg _ hbody).trans ?_
    simp [lines, String.join_cons, String.join_append, String.append_assoc]
  | indented body next ihbody ihnext =>
    have hrest : textFrom imports indent (depth + 1) (.unindent :: (next.instructions ++ rest)) =
        String.join (next.lines imports indent depth) ++ textFrom imports indent depth rest := by
      rw [textFrom_cons]
      exact String.empty_append.trans (ihnext depth rest)
    have hbody := ihbody (depth + 1) (.unindent :: (next.instructions ++ rest))
    rw [hrest] at hbody
    rw [instructions, List.cons_append, List.append_assoc, textFrom_cons]
    refine (String.empty_append.trans hbody).trans ?_
    simp [lines, String.join_append, String.append_assoc]

end Outline

namespace CodeBlock

/-- A block that has an outline, with arguments that match the placeholders of its templates. -/
structure IsOutlined (block : CodeBlock) : Prop where
  matched : ∀ instruction ∈ block, instruction.template.IsMatched
  nested : ∃ outline : Outline, outline.instructions = block

namespace IsOutlined

variable {first second body : CodeBlock} {template head tail : Template}

theorem nil : IsOutlined [] := ⟨by simp, .done, rfl⟩

theorem statement (h : template.IsMatched) : IsOutlined [.statement template] :=
  ⟨by simpa [Instruction.statement] using h, .statement template .done, rfl⟩

theorem blank : IsOutlined [.blank] :=
  ⟨by simpa [Instruction.blank] using Template.isBuilt_empty.isMatched, .blank .done, rfl⟩

theorem append (hfirst : IsOutlined first) (hsecond : IsOutlined second) :
    IsOutlined (first ++ second) := by
  obtain ⟨outline, houtline⟩ := hfirst.nested
  obtain ⟨last, hlast⟩ := hsecond.nested
  refine ⟨List.forall_mem_append.mpr ⟨hfirst.matched, hsecond.matched⟩, outline.append last, ?_⟩
  rw [Outline.instructions_append, houtline, hlast]

theorem braces (hhead : head.IsMatched) (hbody : IsOutlined body) (htail : tail.IsMatched) :
    IsOutlined (.openBlock head :: (body ++ [.closeBlockWith tail])) := by
  obtain ⟨outline, houtline⟩ := hbody.nested
  refine ⟨?_, .braces head outline tail .done, ?_⟩
  · simp only [List.forall_mem_cons, List.forall_mem_append]
    exact ⟨hhead, hbody.matched, htail, by simp⟩
  · rw [Outline.instructions, houtline, Outline.instructions]

theorem indented (hbody : IsOutlined body) : IsOutlined (.indent :: (body ++ [.unindent])) := by
  obtain ⟨outline, houtline⟩ := hbody.nested
  have hempty := Template.isBuilt_empty.isMatched
  refine ⟨?_, .indented outline .done, ?_⟩
  · simp only [List.forall_mem_cons, List.forall_mem_append]
    exact ⟨hempty, hbody.matched, hempty, by simp⟩
  · rw [Outline.instructions, houtline, Outline.instructions]

theorem joinMembers {members : List CodeBlock} (h : ∀ member ∈ members, IsOutlined member) :
    IsOutlined (joinMembers members) := by
  have hfold (body : CodeBlock) (hbody : IsOutlined body) : IsOutlined
      (members.foldl (fun body member =>
        if body.isEmpty then member else body ++ Instruction.blank :: member) body) := by
    induction members generalizing body with
    | nil => exact hbody
    | cons member others ih =>
      obtain ⟨hmember, hothers⟩ := List.forall_mem_cons.mp h
      refine ih hothers _ ?_
      dsimp only
      split
      · exact hmember
      · exact hbody.append (blank.append hmember)
  exact hfold [] nil

end IsOutlined

/-- What rendering relies on: arguments match placeholders, regions are nested and closed in the
reverse order of their opening, and each line is indented for the regions around it. -/
structure IsWellFormed (block : CodeBlock) : Prop where
  matched : ∀ instruction ∈ block, instruction.template.IsMatched
  closesOpen : ClosesOpen 0 block
  level : depthAfter 0 block = 0
  nested : ∃ outline : Outline, outline.instructions = block ∧
    ∀ imports indent,
      block.render imports indent = String.join (outline.lines imports indent 0)

theorem IsOutlined.isWellFormed {block : CodeBlock} (h : block.IsOutlined) :
    block.IsWellFormed := by
  obtain ⟨outline, rfl⟩ := h.nested
  constructor
  case matched => exact h.matched
  case closesOpen =>
    have hnil := (outline.closesOpen_append 0 []).mpr trivial
    rwa [List.append_nil] at hnil
  case level => exact outline.depthAfter_instructions 0
  case nested =>
    refine ⟨outline, rfl, fun imports indent => ?_⟩
    have htext := outline.textFrom_append imports indent 0 []
    rw [List.append_nil] at htext
    exact htext.trans String.append_empty

end CodeBlock
end IconForge
