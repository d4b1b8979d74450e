import IconForge.Theme.Basic
import IconForge.Toml.Document

/-!
# Theme documents

A theme document is a TOML document with optional metadata and a list of rules.
-/

namespace IconForge
namespace Toml

def Value.colorRule? (value : Value) : Option ColorRule := do
  let entries ← value.entries?
  return .ofLiteral (← entries.required "color" string?) (← entries.required "token" string?)

/-- The theme of a document, its rules not yet checked. -/
def Entries.theme? (entries : Entries) : Option Theme := do
  let metadata ← entries.withDefault "metadata" Value.entries? []
  let name ← metadata.optional "name" Value.string?
  let description ← metadata.optional "description" Value.string?
  let rules ← (← entries.withDefault "colors" Value.array? []).mapM Value.colorRule?
  return ⟨name, description, rules⟩

end Toml

def Theme.ofDocument (document : String) : Except ThemeError Theme :=
  match (Toml.parse? document).bind Toml.Entries.theme? with
  | none => .error .malformed
  | some theme => do
    theme.check
    return theme

end IconForge
