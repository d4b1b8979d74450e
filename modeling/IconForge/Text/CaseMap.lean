/-!
# Case mappings

A mapping is stored as runs of letters that lie at one distance from their partners, and as a short
list of letters whose partner is a sequence.
-/

namespace IconForge
namespace Text

/-- First and last letter of a run, the step between its letters, and the distance to their
partners. -/
abbrev CaseRun := Nat × Nat × Nat × Int

/-- The partner of a code point that belongs to the run. -/
def CaseRun.partner? : CaseRun → Nat → Option Char
  | (first, last, step, distance), code =>
    if first ≤ code ∧ code ≤ last ∧ (code - first) % step = 0 then
      some (Char.ofNat ((code : Int) + distance).toNat)
    else
      none

/-- The mapped form of one character; a character without a partner stands for itself. -/
def caseForm (expansions : List (Nat × List Nat)) (runs : List CaseRun) (c : Char) : List Char :=
  match expansions.lookup c.toNat with
  | some codes => codes.map Char.ofNat
  | none => [(runs.findSome? (·.partner? c.toNat)).getD c]

end Text
end IconForge
