import IconForge.Code.Template

/-!
# Blocks of code

A block is a sequence of instructions, each of which adds a line, or changes how far the lines after
it are indented.
-/

namespace IconForge

inductive InstructionKind where
  /-- A single line. -/
  | statement
  /-- A line that opens a block in braces. -/
  | openBlock
  /-- The line that closes the innermost block; its template follows the brace. -/
  | closeBlock
  /-- The lines that follow are indented without a brace. -/
  | indent
  | unindent
  /-- An empty line. -/
  | blank
  deriving DecidableEq

structure Instruction where
  kind : InstructionKind
  template : Template
  deriving DecidableEq

abbrev CodeBlock := List Instruction

namespace Instruction

def statement (template : Template) : Instruction := ⟨.statement, template⟩

def openBlock (head : Template) : Instruction := ⟨.openBlock, head⟩

def closeBlock : Instruction := ⟨.closeBlock, .empty⟩

def closeBlockWith (tail : Template) : Instruction := ⟨.closeBlock, tail⟩

def indent : Instruction := ⟨.indent, .empty⟩

def unindent : Instruction := ⟨.unindent, .empty⟩

def blank : Instruction := ⟨.blank, .empty⟩

def checked (kind : InstructionKind) (text : String) (arguments : List Argument) :
    Except PlaceholderMismatch Instruction :=
  (Template.checked text arguments).map (⟨kind, ·⟩)

end Instruction

namespace CodeBlock

/-- The symbols that a block refers to, in the order in which it first does. -/
def symbols (block : CodeBlock) : List Symbol :=
  ((block.flatMap (·.template.arguments)).filterMap Argument.symbol?).eraseDups

/-- Top-level members with an empty line between each and what stands before it. -/
def joinMembers (members : List CodeBlock) : CodeBlock :=
  members.foldl (fun body member =>
    if body.isEmpty then member else body ++ Instruction.blank :: member) []

end CodeBlock
end IconForge
