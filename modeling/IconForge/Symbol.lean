import IconForge.Text.Separated

/-!
# Symbols

Qualified names of declarations in the generated language. How a symbol is spelled in one file is
decided by the import table of that file.
-/

namespace IconForge

/-- A qualified name. A nested member carries the name of its enclosing class; an extension is found
through its receiver and may share its simple name with others. -/
structure Symbol where
  package : String
  enclosing : Option String
  name : String
  isExtension : Bool
  deriving DecidableEq

namespace Symbol

def topLevel (package name : String) : Symbol := ⟨package, none, name, false⟩

def nested (package enclosing name : String) : Symbol := ⟨package, some enclosing, name, false⟩

def extension (package name : String) : Symbol := ⟨package, none, name, true⟩

/-- The symbol of a dotted name, whose last segment is the simple name. -/
def ofQualified (qualified : String) : Symbol :=
  match Text.splitLast? '.' qualified.toList with
  | some (package, name) => topLevel (String.ofList package) (String.ofList name)
  | none => topLevel "" qualified

/-- The simple name that an import of the symbol brings into scope. -/
def importName (s : Symbol) : String := s.enclosing.getD s.name

theorem importName_of_enclosing {symbol : Symbol} (h : symbol.enclosing = none) :
    symbol.importName = symbol.name := by
  rw [importName, h, Option.getD_none]

/-- The qualified name of the imported declaration. -/
def importPath (s : Symbol) : String :=
  if s.package = "" then s.importName else s.package ++ "." ++ s.importName

/-- The full name with every part, also that of an empty package. -/
def display (s : Symbol) : String :=
  match s.enclosing with
  | some enclosing => s.package ++ "." ++ enclosing ++ "." ++ s.name
  | none => s.package ++ "." ++ s.name

end Symbol
end IconForge
