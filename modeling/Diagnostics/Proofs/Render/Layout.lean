import Diagnostics.Proofs.Render.Order

/-!
# Reports that are drawn alike

A rendered text is the header, the place, and the rows below. All of it but the place is
fixed by the style of the report, by its drawn labels, and by the text and the number of
each labelled line. A report and its source may therefore be exchanged for others that
agree in these, even if their labelled lines are some lines further down.
-/

namespace Diagnostics

/-- A text as it is shown, without escape sequences if they are off. -/
def Report.shown (report : Report) (text : List Char) : List Char :=
  match report.config.ansiMode with
  | .on => text
  | .off => EscapeForm.rendition.strip text

theorem Report.shown_of_on (report : Report) (hansi : report.config.ansiMode = .on)
    (text : List Char) : report.shown text = text := by
  rw [shown, hansi]

theorem Report.shown_of_off (report : Report) (hansi : report.config.ansiMode = .off)
    (text : List Char) : report.shown text = EscapeForm.rendition.strip text := by
  rw [shown, hansi]

theorem text_renderOver (report : Report) (source : Source) (elideAfter : Int) :
    (renderOver report source elideAfter).text =
      report.shown
        (joinRows ((rows report source elideAfter).map (penOf report source).rowText)) := by
  rw [Report.shown]
  rfl

theorem joinRows_cons (first : List Char) {rest : List (List Char)} (hne : rest ≠ []) :
    joinRows (first :: rest) = first ++ '\n' :: joinRows rest := by
  cases rest with
  | nil => exact absurd rfl hne
  | cons second rest => simp [joinRows]

/-- The rows from the first gutter on. -/
def rowsBelowLocation (report : Report) (source : Source) (elideAfter : Int) : List Row :=
  let labels := orderedLabels (drawnLabels report source)
  .gutter :: bodyRows report source elideAfter labels none (labelledLines labels) ++ [.border] ++
    report.notes.map (fun note => .note (noteText note)) ++
    report.help.map (fun help => .help (noteText help))

theorem rows_eq_cons (report : Report) (source : Source) (elideAfter : Int) :
    rows report source elideAfter =
      headerRow report :: .location (locationReference report source) ::
        rowsBelowLocation report source elideAfter := by
  simp [rows, rowsBelowLocation]

theorem rowsBelowLocation_ne_nil (report : Report) (source : Source) (elideAfter : Int) :
    rowsBelowLocation report source elideAfter ≠ [] := by
  simp [rowsBelowLocation]

/-! ### Lines further down -/

/-- Reports that differ at most in their spans, their labels and the unit of their
offsets. -/
structure Report.SameStyle (report other : Report) : Prop where
  kind : other.kind = report.kind
  code : other.code = report.code
  msg : other.msg = report.msg
  notes : other.notes = report.notes
  help : other.help = report.help
  color : other.config.color = report.config.color
  charSet : other.config.charSet = report.config.charSet
  tabWidth : other.config.tabWidth = report.config.tabWidth
  ansiMode : other.config.ansiMode = report.config.ansiMode

namespace Report.SameStyle

variable {report other : Report}

theorem headerRow_eq (hstyle : report.SameStyle other) : headerRow other = headerRow report := by
  simp [headerRow, headerLabel, hstyle.kind, hstyle.code, hstyle.msg, hstyle.color]

theorem shown_eq (hstyle : report.SameStyle other) (text : List Char) :
    other.shown text = report.shown text := by
  rw [Report.shown, Report.shown, hstyle.ansiMode]

end Report.SameStyle

def DrawnLabel.moveDown (down : Nat) (label : DrawnLabel) : DrawnLabel :=
  { label with line := label.line + down }

theorem orderedLabels_moveDown (down : Nat) (labels : List DrawnLabel) :
    orderedLabels (labels.map (DrawnLabel.moveDown down)) =
      (orderedLabels labels).map (DrawnLabel.moveDown down) := by
  apply orderedLabels_map
  intro a b
  rw [Bool.eq_iff_iff, DrawnLabel.mayPrecede_iff, DrawnLabel.mayPrecede_iff]
  simp [DrawnLabel.moveDown]

theorem labelledLines_moveDown (down : Nat) (labels : List DrawnLabel) :
    labelledLines (labels.map (DrawnLabel.moveDown down)) =
      (labelledLines labels).map (· + down) := by
  apply labelledLines_eq
  · rw [List.pairwise_map]
    exact (labelledLines_pairwise labels).imp fun hlt => Nat.add_lt_add_right hlt down
  · intro line
    simp [DrawnLabel.moveDown]

/-- `moved` over `target` looks like `report` over `source`, `down` lines further down. -/
structure MovedDown (report : Report) (source : Source) (moved : Report) (target : Source)
    (down : Nat) : Prop where
  style : report.SameStyle moved
  drawn : drawnLabels moved target = (drawnLabels report source).map (DrawnLabel.moveDown down)
  lineNumber : ∀ line : Nat, target.lineNumber ((line + down : Nat) : Int) = source.lineNumber line
  textAt : ∀ label ∈ drawnLabels report source,
    target.textAt (label.line + down) = source.textAt label.line

namespace MovedDown

variable {report moved : Report} {source target : Source} {down : Nat}
variable (hmoved : MovedDown report source moved target down)
include hmoved

theorem ordered_eq : orderedLabels (drawnLabels moved target) =
    (orderedLabels (drawnLabels report source)).map (DrawnLabel.moveDown down) := by
  rw [hmoved.drawn, orderedLabels_moveDown]

theorem penOf_eq : penOf moved target = penOf report source := by
  have hwidth : numberWidth target (labelledLines (drawnLabels moved target)) =
      numberWidth source (labelledLines (drawnLabels report source)) := by
    rw [hmoved.drawn, labelledLines_moveDown, numberWidth, numberWidth, List.map_map]
    congr 2
    funext line
    exact congrArg (fun number => (Text.decimal number).length) (hmoved.lineNumber line)
  rw [penOf, penOf, hwidth, hmoved.style.charSet, hmoved.style.color]

theorem sourceRow_eq {line : Nat}
    (htext : target.textAt (line + down) = source.textAt line) :
    sourceRow moved target (line + down) = sourceRow report source line := by
  rw [sourceRow, sourceRow, hmoved.lineNumber, hmoved.style.tabWidth, htext]

theorem blockRows_eq (pen : Pen) (labels : List DrawnLabel) {line : Nat}
    (htext : target.textAt (line + down) = source.textAt line) :
    (blockRows moved target (labels.map (DrawnLabel.moveDown down)) (line + down)).map
        pen.rowText =
      (blockRows report source labels line).map pen.rowText := by
  have hfilter : (labels.map (DrawnLabel.moveDown down)).filter (·.line = line + down) =
      (labels.filter (·.line = line)).map (DrawnLabel.moveDown down) := by
    rw [List.filter_map]
    congr 2
    funext label
    simp [DrawnLabel.moveDown]
  have hrows : ∀ label : DrawnLabel,
      (labelRows (label.moveDown down)).map pen.rowText = (labelRows label).map pen.rowText := by
    intro label
    simp only [labelRows, DrawnLabel.moveDown]
    cases presentText label.msg <;> rfl
  simp only [blockRows, hmoved.sourceRow_eq htext, hfilter, List.map_cons, List.map_flatMap,
    List.flatMap_map, hrows]

theorem bodyRows_eq (pen : Pen) (elideAfter : Int) (labels : List DrawnLabel)
    (previous : Option Nat) (lines : List Nat)
    (htext : ∀ line ∈ lines, target.textAt (line + down) = source.textAt line) :
    (bodyRows moved target elideAfter (labels.map (DrawnLabel.moveDown down))
        (previous.map (· + down)) (lines.map (· + down))).map pen.rowText =
      (bodyRows report source elideAfter labels previous lines).map pen.rowText := by
  induction lines generalizing previous with
  | nil => rfl
  | cons line rest ih =>
      have hgap : elisionRows elideAfter (previous.map (· + down)) (line + down) =
          elisionRows elideAfter previous line := by
        cases previous with
        | none => rfl
        | some last =>
            simp only [elisionRows, Option.map_some]
            congr 1
            apply propext
            push_cast
            omega
      have hblock := hmoved.blockRows_eq pen labels (htext line List.mem_cons_self)
      have hrest := ih (some line) fun other hother => htext other (List.mem_cons_of_mem _ hother)
      rw [Option.map_some] at hrest
      simp only [List.map_cons, bodyRows, List.map_append, hgap, hblock, hrest]

/-- Everything below the place is shown alike. -/
theorem rowsBelowLocation_eq (elideAfter : Int) :
    (rowsBelowLocation moved target elideAfter).map (penOf moved target).rowText =
      (rowsBelowLocation report source elideAfter).map (penOf report source).rowText := by
  have htext : ∀ line ∈ labelledLines (orderedLabels (drawnLabels report source)),
      target.textAt (line + down) = source.textAt line := by
    intro line hline
    rw [labelledLines_orderedLabels, mem_labelledLines] at hline
    obtain ⟨label, hlabel, rfl⟩ := hline
    exact hmoved.textAt label hlabel
  have hbody := hmoved.bodyRows_eq (penOf report source) elideAfter
    (orderedLabels (drawnLabels report source)) none _ htext
  rw [Option.map_none] at hbody
  simp only [rowsBelowLocation, hmoved.ordered_eq, labelledLines_moveDown, hmoved.penOf_eq,
    List.map_cons, List.map_append, List.cons_append, hbody, hmoved.style.notes,
    hmoved.style.help]

/-- If the place reads the same as well, so does the whole text. -/
theorem text_eq (hlocation : locationReference moved target = locationReference report source)
    (elideAfter : Int) :
    (renderOver moved target elideAfter).text = (renderOver report source elideAfter).text := by
  have hrows : (rows moved target elideAfter).map (penOf moved target).rowText =
      (rows report source elideAfter).map (penOf report source).rowText := by
    rw [rows_eq_cons, rows_eq_cons, List.map_cons, List.map_cons, List.map_cons, List.map_cons,
      hmoved.rowsBelowLocation_eq elideAfter, hmoved.style.headerRow_eq, hlocation,
      hmoved.penOf_eq]
  rw [text_renderOver, text_renderOver, hrows, hmoved.style.shown_eq]

end MovedDown

end Diagnostics
