import IconForge.Symbol

/-!
# Templates

A template is text with placeholders, and an argument for each placeholder in order. In the text a
percent sign begins a placeholder, whose second character is the marker of the kind of argument; two
percent signs stand for one, and a percent sign at the end stands for itself.

Templates made by the operations of this module have matching placeholders and arguments;
`Template.checked` admits a fixed text with separate arguments if they match.
-/

namespace IconForge

inductive Argument where
  | member (symbol : Symbol)
  | typeName (symbol : Symbol)
  | name (text : String)
  | string (text : String)
  deriving DecidableEq

namespace Argument

/-- The marker of the placeholder that the argument fills. -/
def marker : Argument → Char
  | member _ => 'M'
  | typeName _ => 'T'
  | name _ => 'N'
  | string _ => 'S'

def symbol? : Argument → Option Symbol
  | member symbol => some symbol
  | typeName symbol => some symbol
  | name _ => none
  | string _ => none

end Argument

/-- The markers of the placeholders in the text of a template. -/
def placeholders : List Char → List Char
  | [] => []
  | ['%'] => []
  | '%' :: marker :: rest => if marker = '%' then placeholders rest else marker :: placeholders rest
  | _ :: rest => placeholders rest

/-- The text whose percent signs stand for themselves. -/
def escapePercent : List Char → List Char
  | [] => []
  | c :: rest => if c = '%' then '%' :: '%' :: escapePercent rest else c :: escapePercent rest

structure Template where
  text : String
  arguments : List Argument
  deriving DecidableEq

/-- A fixed text whose placeholders and arguments differ in number or kind. -/
structure PlaceholderMismatch where
  text : String
  placeholders : Nat
  arguments : Nat
  deriving DecidableEq

def PlaceholderMismatch.message (e : PlaceholderMismatch) : String :=
  "template \x60" ++ e.text ++ "\x60 has " ++ toString e.placeholders ++ " placeholders but " ++
    toString e.arguments ++ " arguments"

namespace Template

def empty : Template := ⟨"", []⟩

def ofText (text : String) : Template := ⟨String.ofList (escapePercent text.toList), []⟩

def ofArgument (argument : Argument) : Template :=
  ⟨String.ofList ['%', argument.marker], [argument]⟩

def member (symbol : Symbol) : Template := ofArgument (.member symbol)

def typeName (symbol : Symbol) : Template := ofArgument (.typeName symbol)

def name (text : String) : Template := ofArgument (.name text)

def string (text : String) : Template := ofArgument (.string text)

def append (first second : Template) : Template :=
  ⟨first.text ++ second.text, first.arguments ++ second.arguments⟩

instance : Append Template := ⟨append⟩

def concat (templates : List Template) : Template :=
  ⟨String.join (templates.map text), templates.flatMap arguments⟩

/-- Templates one after another, with literal text between them. -/
def join (separator : String) (templates : List Template) : Template :=
  concat (templates.intersperse (ofText separator))

def isEmpty (template : Template) : Bool := template.text.isEmpty

def checked (text : String) (arguments : List Argument) : Except PlaceholderMismatch Template :=
  let markers := placeholders text.toList
  if markers = arguments.map Argument.marker then
    .ok ⟨text, arguments⟩
  else
    .error ⟨text, markers.length, arguments.length⟩

end Template

/-- A step of building a template. -/
inductive TemplateStep where
  | text (text : String)
  | argument (argument : Argument)
  | append (steps : List TemplateStep)
  | join (parts : List (List TemplateStep)) (separator : String)

mutual

def TemplateStep.template : TemplateStep → Template
  | .text text => .ofText text
  | .argument argument => .ofArgument argument
  | .append steps => Template.ofSteps steps
  | .join parts separator => .join separator (Template.ofParts parts)

def Template.ofSteps : List TemplateStep → Template
  | [] => .empty
  | step :: others => step.template ++ Template.ofSteps others

def Template.ofParts : List (List TemplateStep) → List Template
  | [] => []
  | steps :: others => Template.ofSteps steps :: Template.ofParts others

end

end IconForge
