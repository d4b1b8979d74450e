import IconForge.Toml.Statement

/-!
# TOML documents

A document is read statement by statement. A header opens a table, into which the assignments after
it go.
-/

namespace IconForge
namespace Toml

/-- The statements of a text. Each takes at least one character of it. -/
def statements? : Nat → List Char → Option (List Statement)
  | 0, _ => none
  | bound + 1, text =>
    match skipLayout text with
    | [] => some []
    | first => do
      let (statement, rest) ← statement? (bound + 1) first
      let others ← statements? bound (← endOfStatement? rest)
      return statement :: others

/-- A document that is being read: its root table, and the way to the table that was opened last. -/
structure Progress where
  root : Items
  opened : List String

def Progress.step (progress : Progress) : Statement → Option Progress
  | .assign a => do
    let root ← progress.root.along (Items.assign a.value true a.way a.key) progress.opened
    return ⟨root, progress.opened⟩
  | .tableHeader way key => do
    return ⟨← progress.root.along (Items.nameTable key) way, way ++ [key]⟩
  | .elementHeader way key => do
    return ⟨← progress.root.along (Items.addElement key) way, way ++ [key]⟩

/-- A byte order mark may stand at the start of a document. -/
def skipByteOrderMark : List Char → List Char
  | '\ufeff' :: rest => rest
  | text => text

def parse? (document : String) : Option Entries := do
  let text := skipByteOrderMark document.toList
  let statements ← statements? (text.length + 1) text
  let progress ← statements.foldlM Progress.step ⟨[], []⟩
  return Items.toEntries progress.root

end Toml
end IconForge
