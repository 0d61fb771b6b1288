import Diagnostics.Proofs.Except
import Diagnostics.Report.Session

/-!
# What a step of a session does

A step works on the session in place, and could leave it half changed. Only one kind of step does:
labels that are made one by one while they are added stay added up to the first that cannot be
made. Any other step that fails has changed nothing. A step that answers has added its notes, helps
and labels behind those that were there, whatever its name for the field is, and has replaced the
options or taken a snapshot only if that is what it is for.
-/

namespace Diagnostics

/-! ### What steps add -/

namespace Step

/-- What the step adds to the notes. -/
def notes : Step → List (Option String)
  | .withNote note => [note]
  | .setField (.known .notes note) => [note]
  | _ => []

/-- The labels that the step is to add. -/
def labels : Step → List LabelRequest
  | .addLabel label => [label]
  | .addLabels (.list labels) => labels
  | .addLabels (.stream labels) => labels
  | .setField (.known .labels label) => [label]
  | _ => []

/-- What the step puts in place of all earlier options. -/
def base? : Step → Option Config.Base
  | .setConfig base => some base
  | _ => none

end Step

section Platform

variable [Platform]

namespace Session

section Adding

variable {step : Step} (session : Session)

end Adding

end Session

end Platform

/-! ### Running the parts of a step -/

namespace Session

variable [Platform]

variable (session : Session)

end Session

end Diagnostics
