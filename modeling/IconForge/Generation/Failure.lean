import IconForge.Code.ImportTable
import IconForge.Drawing.Check
import IconForge.DrawingCode.Shape

/-!
# Failures of icons

Why an icon could not be generated, and how that is reported.
-/

namespace IconForge

inductive FailureCause where
  | emission (error : CodeError)
  | source (error : SourceError)
  | collision (collision : NameCollision)
  deriving DecidableEq

namespace FailureCause

def kind : FailureCause → String
  | emission (.malformedFill ..) => "MalformedFill"
  | emission (.placeholderMismatch _) => "PlaceholderMismatch"
  | source _ => "ParseFailure"
  | collision _ => "NameCollision"

def message : FailureCause → String
  | emission error => "malformed icon: " ++ error.message
  | source error => "parse failure: " ++ error.message
  | collision c => c.message

/-- The node that the cause lies in, as far as code was emitted for it. -/
def place? : FailureCause → Option NodePath
  | emission error => error.place?
  | source _ | collision _ => none

end FailureCause

structure IconFailure where
  icon : String
  /-- Where the source of the icon came from. -/
  origin : String
  cause : FailureCause
  deriving DecidableEq

def IconFailure.message (failure : IconFailure) : String :=
  let place :=
    match failure.cause.place? with
    | some place => " (node " ++ place.display ++ ")"
    | none => ""
  "icon '" ++ failure.icon ++ "'" ++ place ++ " [" ++ failure.cause.kind ++ "]: " ++
    failure.cause.message

end IconForge
