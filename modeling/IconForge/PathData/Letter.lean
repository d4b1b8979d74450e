import IconForge.PathData.Command

/-!
# Command letters

A letter names a command and, by its case, whether it is relative. The numbers after it come in
groups, each of which draws the command once more; only the first group of a `moveTo` moves, the
others draw lines.
-/

namespace IconForge
namespace PathData

inductive Verb where
  | close
  | moveTo
  | lineTo
  | horizontalTo
  | verticalTo
  | curveTo
  | reflectiveCurveTo
  | quadTo
  | reflectiveQuadTo
  | arcTo
  deriving DecidableEq

def Verb.arity : Verb → Nat
  | close => 0
  | horizontalTo | verticalTo => 1
  | moveTo | lineTo | reflectiveQuadTo => 2
  | reflectiveCurveTo | quadTo => 4
  | curveTo => 6
  | arcTo => 7

structure Letter where
  verb : Verb
  relative : Bool
  deriving DecidableEq

namespace Letter

def ofChar? : Char → Option Letter
  | 'M' => some ⟨.moveTo, false⟩
  | 'm' => some ⟨.moveTo, true⟩
  | 'L' => some ⟨.lineTo, false⟩
  | 'l' => some ⟨.lineTo, true⟩
  | 'H' => some ⟨.horizontalTo, false⟩
  | 'h' => some ⟨.horizontalTo, true⟩
  | 'V' => some ⟨.verticalTo, false⟩
  | 'v' => some ⟨.verticalTo, true⟩
  | 'C' => some ⟨.curveTo, false⟩
  | 'c' => some ⟨.curveTo, true⟩
  | 'S' => some ⟨.reflectiveCurveTo, false⟩
  | 's' => some ⟨.reflectiveCurveTo, true⟩
  | 'Q' => some ⟨.quadTo, false⟩
  | 'q' => some ⟨.quadTo, true⟩
  | 'T' => some ⟨.reflectiveQuadTo, false⟩
  | 't' => some ⟨.reflectiveQuadTo, true⟩
  | 'A' => some ⟨.arcTo, false⟩
  | 'a' => some ⟨.arcTo, true⟩
  | 'Z' => some ⟨.close, false⟩
  | 'z' => some ⟨.close, true⟩
  | _ => none

def toChar : Letter → Char
  | ⟨.moveTo, relative⟩ => if relative then 'm' else 'M'
  | ⟨.lineTo, relative⟩ => if relative then 'l' else 'L'
  | ⟨.horizontalTo, relative⟩ => if relative then 'h' else 'H'
  | ⟨.verticalTo, relative⟩ => if relative then 'v' else 'V'
  | ⟨.curveTo, relative⟩ => if relative then 'c' else 'C'
  | ⟨.reflectiveCurveTo, relative⟩ => if relative then 's' else 'S'
  | ⟨.quadTo, relative⟩ => if relative then 'q' else 'Q'
  | ⟨.reflectiveQuadTo, relative⟩ => if relative then 't' else 'T'
  | ⟨.arcTo, relative⟩ => if relative then 'a' else 'A'
  | ⟨.close, relative⟩ => if relative then 'z' else 'Z'

/-- The command that one group of arguments draws, if it has the right number of them. A flag of an
arc is set by any number but zero. -/
def command? (letter : Letter) (isFirst : Bool) (group : List Binary32) : Option PathCommand :=
  match letter.verb, group with
  | .close, [] => some .close
  | .moveTo, [x, y] =>
    some (if isFirst then .moveTo letter.relative ⟨x, y⟩ else .lineTo letter.relative ⟨x, y⟩)
  | .lineTo, [x, y] => some (.lineTo letter.relative ⟨x, y⟩)
  | .horizontalTo, [x] => some (.horizontalTo letter.relative x)
  | .verticalTo, [y] => some (.verticalTo letter.relative y)
  | .curveTo, [x₁, y₁, x₂, y₂, x, y] =>
    some (.curveTo letter.relative ⟨x₁, y₁⟩ ⟨x₂, y₂⟩ ⟨x, y⟩)
  | .reflectiveCurveTo, [x₂, y₂, x, y] =>
    some (.reflectiveCurveTo letter.relative ⟨x₂, y₂⟩ ⟨x, y⟩)
  | .quadTo, [x₁, y₁, x, y] => some (.quadTo letter.relative ⟨x₁, y₁⟩ ⟨x, y⟩)
  | .reflectiveQuadTo, [x, y] => some (.reflectiveQuadTo letter.relative ⟨x, y⟩)
  | .arcTo, [radiusX, radiusY, rotation, large, sweep, x, y] =>
    some (.arcTo letter.relative
      ⟨radiusX, radiusY, rotation, large.magnitude ≠ 0, sweep.magnitude ≠ 0, ⟨x, y⟩⟩)
  | _, _ => none

/-- The groups of `size` arguments; the last one may be shorter. A size of zero counts as one. -/
def groups (size : Nat) : List Binary32 → List (List Binary32)
  | [] => []
  | argument :: rest => (argument :: rest.take (size - 1)) :: groups size (rest.drop (size - 1))
termination_by arguments => arguments.length
decreasing_by
  rw [List.length_drop, List.length_cons]
  omega

/-- The commands of the groups, the first of which is `isFirst`. -/
def commandsOfGroups? (letter : Letter) (isFirst : Bool) :
    List (List Binary32) → Option (List PathCommand)
  | [] => some []
  | group :: others => do
    let command ← letter.command? isFirst group
    let commands ← commandsOfGroups? letter false others
    return command :: commands

/-- The commands of a letter with all its arguments: one group or more of the right size, and none
for the closing letter. -/
def commands? (letter : Letter) (arguments : List Binary32) : Option (List PathCommand) :=
  if letter.verb = .close then
    if arguments = [] then some [.close] else none
  else if arguments = [] then
    none
  else
    letter.commandsOfGroups? true (groups letter.verb.arity arguments)

theorem ofChar?_toChar (letter : Letter) : ofChar? letter.toChar = some letter := by
  obtain ⟨verb, relative⟩ := letter
  cases verb <;> cases relative <;> rfl

end Letter
end PathData
end IconForge
