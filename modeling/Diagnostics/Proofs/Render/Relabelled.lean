import Diagnostics.Proofs.Render.Layout
import Diagnostics.Proofs.Render.Redrawn

/-!
# Reports further down

If the labels of a report are exchanged one by one for others that are drawn alike some
lines further down, or dropped for a like reason, the whole report is drawn alike.
-/

namespace Diagnostics

/-! ### One label -/

def DropReason.moveDown (down : Nat) : DropReason → DropReason
  | .severalLines first last => .severalLines (first + down) (last + down)
  | reason => reason

/-- The same drop for another span and `down` lines further down. -/
def DroppedLabel.restate (respan : Span → Span) (down : Nat) (dropped : DroppedLabel) :
    DroppedLabel :=
  ⟨respan dropped.span, dropped.reason.moveDown down⟩

/-- A label is projected alike if its ends are found alike and its place is alike. -/
theorem projectLabel_moveDown {config other : Config} {source target : Source}
    {label moved : Label} {down : Nat} {first last : Position → Position}
    (hfirst : target.lineAt? moved.span.start other.offsetUnit =
      (source.lineAt? label.span.start config.offsetUnit).map first)
    (hlast : target.lineAt? moved.span.lastOffset other.offsetUnit =
      (source.lineAt? label.span.lastOffset config.offsetUnit).map last)
    (hindexFirst : ∀ position, (first position).index = position.index + down)
    (hindexLast : ∀ position, (last position).index = position.index + down)
    (hplace : ∀ position, source.lineAt? label.span.start config.offsetUnit = some position →
      placeLabel other target moved (first position) =
        (placeLabel config source label position).moveDown down) :
    projectLabel other target moved =
      ((projectLabel config source label).map (DrawnLabel.moveDown down)).mapError
        (DropReason.moveDown down) := by
  simp only [projectLabel, hfirst, hlast]
  cases hstart : source.lineAt? label.span.start config.offsetUnit with
  | none => rfl
  | some position =>
      cases source.lineAt? label.span.lastOffset config.offsetUnit with
      | none => rfl
      | some final =>
          simp only [Option.map_some, hindexFirst, hindexLast, Nat.add_right_cancel_iff,
            hplace position hstart]
          split
          · rfl
          · rfl

theorem drawLabel_moveDown {report other : Report} {source target : Source}
    {label moved : Label} {respan : Span → Span} {down : Nat}
    (hreport : other.span.source = report.span.source)
    (hspan : moved.span = respan label.span)
    (hlabel : moved.span.source = label.span.source)
    (hproject : projectLabel other.config target moved =
      ((projectLabel report.config source label).map (DrawnLabel.moveDown down)).mapError
        (DropReason.moveDown down)) :
    drawLabel other target moved =
      ((drawLabel report source label).map (DrawnLabel.moveDown down)).mapError
        (DroppedLabel.restate respan down) := by
  rw [drawLabel, drawLabel, hproject, hlabel, hreport, hspan]
  split
  · cases projectLabel report.config source label <;> rfl
  · rfl

/-! ### All labels -/

/-- The labels of `moved` over `target` are drawn like those of `report` over `source`,
`down` lines further down. -/
structure Relabelled (report : Report) (source : Source) (moved : Report) (target : Source)
    (down : Nat) (relabel : Label → Label) (respan : Span → Span) : Prop where
  style : report.SameStyle moved
  labels : moved.labels = report.labels.map relabel
  drawLabel : ∀ label ∈ report.labels, drawLabel moved target (relabel label) =
    ((drawLabel report source label).map (DrawnLabel.moveDown down)).mapError
      (DroppedLabel.restate respan down)
  lineNumber : ∀ line : Nat, target.lineNumber ((line + down : Nat) : Int) = source.lineNumber line
  textAt : ∀ line < source.lines.length, target.textAt (line + down) = source.textAt line
  startNumber? : moved.startNumber? target = report.startNumber? source

namespace Relabelled

variable {report moved : Report} {source target : Source} {down : Nat}
variable {relabel : Label → Label} {respan : Span → Span}
variable (hmoved : Relabelled report source moved target down relabel respan)
include hmoved

theorem redrawn : Redrawn report source moved target relabel (DrawnLabel.moveDown down)
    (DroppedLabel.restate respan down) where
  labels := hmoved.labels
  drawLabel := hmoved.drawLabel
  tabWidth := hmoved.style.tabWidth
  textAt drawn hdrawn := by
    obtain ⟨label, -, hlabel⟩ := mem_drawnLabels.mp hdrawn
    exact hmoved.textAt drawn.line (drawLabel_line_lt hlabel)
  lineNumber drawn := hmoved.lineNumber drawn.line
  startNumber? := hmoved.startNumber?

theorem drawnLabels_eq : drawnLabels moved target =
    (drawnLabels report source).map (DrawnLabel.moveDown down) :=
  hmoved.redrawn.drawnLabels_eq

theorem movedDown : MovedDown report source moved target down where
  style := hmoved.style
  drawn := hmoved.drawnLabels_eq
  lineNumber := hmoved.lineNumber
  textAt := hmoved.redrawn.textAt

variable [Platform]

theorem render_eq {cache targetCache : Cache} (elideAfter : Int)
    (hfetch : cache.fetch (sourceName report.span.source) = .ok source)
    (htarget : targetCache.fetch (sourceName moved.span.source) = .ok target) :
    render moved targetCache elideAfter =
      match render report cache elideAfter with
      | .ok rendering =>
          .ok ⟨(renderOver moved target elideAfter).text,
            rendering.dropped.map (DroppedLabel.restate respan down)⟩
      | .error (.broken fault dropped) =>
          .error (.broken fault (dropped.map (DroppedLabel.restate respan down)))
      | .error (.missing cause) => .error (.missing cause) :=
  hmoved.redrawn.render_eq elideAfter hfetch htarget

end Relabelled

end Diagnostics
