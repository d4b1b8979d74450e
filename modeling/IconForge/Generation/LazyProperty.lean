import IconForge.Code.Block

/-!
# Lazily filled properties

Icons and collections are properties whose getter fills a private slot on first use.
-/

namespace IconForge
namespace LazyProperty

open Template (ofText)

/-- The getter that fills a slot with an initial value once and returns it. The marker, if any, is
written above the getter. -/
def getter (slot : String) (marker? : Option Symbol) (initial : Template) : CodeBlock :=
  (match marker? with
    | some symbol => [Instruction.statement (ofText "@" ++ .typeName symbol)]
    | none => []) ++
  [.openBlock (ofText "get()"),
    .openBlock (ofText "if (" ++ .name slot ++ ofText " != null)"),
    .statement (ofText "return " ++ .name slot ++ ofText "!!"),
    .closeBlock,
    .statement (.name slot ++ ofText " = " ++ initial),
    .statement (ofText "return " ++ .name slot ++ ofText "!!"),
    .closeBlock]

/-- The declaration of a slot for values of a type. -/
def slotDeclaration (slot : String) (type : Template) : CodeBlock :=
  [.statement (ofText "private var " ++ .name slot ++ ofText ": " ++ type ++ ofText "? = null")]

end LazyProperty
end IconForge
