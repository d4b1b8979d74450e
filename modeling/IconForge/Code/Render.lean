import IconForge.Code.Block
import IconForge.Code.ImportTable

/-!
# Rendering code

The text of templates and blocks, with symbols spelled as an import table decides.
-/

namespace IconForge

/-- The characters that stand for one character of a string literal. -/
def escapeLiteralChar : Char → List Char
  | '"' => ['\\', '"']
  | '\\' => ['\\', '\\']
  | '$' => ['\\', '$']
  | '\n' => ['\\', 'n']
  | c => [c]

def quote (value : String) : String :=
  String.ofList ('"' :: (value.toList.flatMap escapeLiteralChar ++ ['"']))

def Argument.render (imports : ImportTable) : Argument → String
  | member symbol => imports.spelling symbol
  | typeName symbol => imports.spelling symbol
  | name text => text
  | string text => quote text

/-- The text of a template, given how arguments are written. A placeholder without an argument
leaves nothing. -/
def renderText (write : Argument → List Char) : List Char → List Argument → List Char
  | [], _ => []
  | ['%'], _ => ['%']
  | '%' :: marker :: rest, arguments =>
    if marker = '%' then
      '%' :: renderText write rest arguments
    else
      match arguments with
      | [] => renderText write rest []
      | argument :: others => write argument ++ renderText write rest others
  | c :: rest, arguments => c :: renderText write rest arguments

def Template.render (imports : ImportTable) (template : Template) : String :=
  String.ofList
    (renderText (fun argument => (argument.render imports).toList) template.text.toList
      template.arguments)

def InstructionKind.depthAfter : InstructionKind → Nat → Nat
  | openBlock, depth | indent, depth => depth + 1
  | closeBlock, depth | unindent, depth => depth - 1
  | statement, depth | blank, depth => depth

/-- The text of one instruction at a depth. A closing brace stands at the depth after it. -/
def Instruction.render (imports : ImportTable) (indent : String) (depth : Nat)
    (instruction : Instruction) : String :=
  let text := instruction.template.render imports
  let indentation (levels : Nat) : String := String.join (List.replicate levels indent)
  match instruction.kind with
  | .statement => indentation depth ++ text ++ "\n"
  | .openBlock => indentation depth ++ (if text.isEmpty then "" else text ++ " ") ++ "\x7b\n"
  | .closeBlock => indentation (depth - 1) ++ "\x7d" ++ text ++ "\n"
  | .indent | .unindent => ""
  | .blank => "\n"

namespace CodeBlock

/-- The texts of the instructions of a block whose first line is at a depth. -/
def renderFrom (imports : ImportTable) (indent : String) : Nat → CodeBlock → List String
  | _, [] => []
  | depth, instruction :: others =>
    instruction.render imports indent depth ::
      renderFrom imports indent (instruction.kind.depthAfter depth) others

def render (imports : ImportTable) (indent : String) (block : CodeBlock) : String :=
  String.join (renderFrom imports indent 0 block)

end CodeBlock
end IconForge
