import IconForge.Drawing.Document
import IconForge.Generation.IconDeclaration

/-!
# Runs over the icons of a group

The icons of one group are generated independently of each other, after the public names of all
accepted ones have been reserved and their slots allocated. Results keep the order of the icons.
-/

namespace IconForge

/-- The text of an icon document with the name of the icon. -/
structure IconSource where
  name : String
  /-- Where the text came from. -/
  origin : String
  contents : String
  deriving DecidableEq

/-- How the drawing of an icon is read from its source. -/
abbrev IconParser := IconSource → Except SourceError VectorDrawing

def documentParser : IconParser := fun source => VectorDrawing.ofDocument source.contents

inductive FailurePolicy where
  /-- The first failure ends the run. -/
  | failFast
  /-- Failures are reported beside the icons that succeed. -/
  | collect
  deriving DecidableEq

structure Schedule where
  policy : FailurePolicy
  /-- Whether the icons are built at the same time. -/
  parallel : Bool
  deriving DecidableEq

structure IconOutput where
  handle : Symbol
  declaration : IconDeclaration
  file : SourceFile
  deriving DecidableEq

structure IconsOutput where
  icons : List IconOutput
  /-- The failures, none if the first one ends the run. -/
  failures : List IconFailure
  /-- The number of icons that were not accepted. -/
  skipped : Nat
  deriving DecidableEq

def IconsOutput.handles (output : IconsOutput) : List Symbol := output.icons.map IconOutput.handle

/-- What the generation of every icon of a run shares. -/
structure Generator where
  parser : IconParser
  context : CodeContext
  schedule : Schedule
  /-- The name of the property that collects the icons of a group. -/
  collectionName : String

namespace Generator

/-- Generates one icon with its slot, for a package and as a member of a class. -/
def generateIcon (generator : Generator) (package : String) (groupClass : Symbol)
    (source : IconSource) (slot : String) : Except IconFailure IconOutput :=
  let build : Except FailureCause IconOutput := do
    let drawing ← (generator.parser source).mapError FailureCause.source
    let declaration ← (IconDeclaration.build generator.context source.name drawing slot).mapError
      FailureCause.emission
    let file ← declaration.toSourceFile package groupClass generator.context.style
    return ⟨declaration.handle package, declaration, file⟩
  build.mapError (⟨source.name, source.origin, ·⟩)

/-- The results of all jobs, each computed on its own. -/
def runAll {α β : Type} (job : α → β) (jobs : List α) : List β :=
  (jobs.map fun input => Task.spawn fun _ => job input).map Task.get

/-- Separates successes from failures; with the fail-fast policy the first failure is the result. -/
def settle (policy : FailurePolicy) :
    List (Except IconFailure IconOutput) →
      Except IconFailure (List IconOutput × List IconFailure)
  | [] => .ok ([], [])
  | .ok icon :: others => do
    let (icons, failures) ← settle policy others
    return (icon :: icons, failures)
  | .error failure :: others =>
    match policy with
    | .failFast => .error failure
    | .collect => do
      let (icons, failures) ← settle policy others
      return (icons, failure :: failures)

/-- Runs jobs as a schedule says. One after another, a run that fails fast does not begin a
job after the first failure. -/
def runJobs {α : Type} (schedule : Schedule) (job : α → Except IconFailure IconOutput)
    (jobs : List α) : Except IconFailure (List IconOutput × List IconFailure) :=
  if schedule.parallel then
    settle schedule.policy (runAll job jobs)
  else
    match schedule.policy with
    | .failFast => do return (← jobs.mapM job, [])
    | .collect => settle .collect (jobs.map job)

/-- Generates the accepted icons for a package and as members of a class, and answers the names in
use afterwards. -/
def runIcons (generator : Generator) (package : String) (groupClass : Symbol)
    (accepts : String → Bool) (icons : List IconSource) (names : UsedNames) :
    Except IconFailure (IconsOutput × UsedNames) := do
  let selected := icons.filter fun icon => accepts icon.name
  let selectedNames := selected.map IconSource.name
  let (slots, names) := (names.reserveAll selectedNames).allocateSlots selectedNames
  let (generated, failures) ← runJobs generator.schedule
    (fun (source, slot) => generator.generateIcon package groupClass source slot)
    (selected.zip slots)
  return (⟨generated, failures, icons.length - selected.length⟩, names)

end Generator
end IconForge
