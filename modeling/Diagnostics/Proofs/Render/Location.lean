import Diagnostics.Proofs.Escape.Strip
import Diagnostics.Proofs.Render.Layout
import Diagnostics.Proofs.Text.Decimal

/-!
# The column of the place

The column number divides a rendered text: what stands before it and what stands after
it are shown independently of it, even if escape sequences are removed from the whole.
-/

namespace Diagnostics

/-- The source and the line of the start of the report, with the colon before the
column. -/
def referenceHead (report : Report) (source : Source) : String :=
  let name := sourceName report.span.source
  match source.lineAt? report.span.start report.config.offsetUnit with
  | some position => name ++ ":" ++ toString (source.lineNumber position.index) ++ ":"
  | none => name ++ ":?:"

/-- The column of the start of the report, or a question mark if it is outside. -/
def columnText (report : Report) (source : Source) : String :=
  match source.lineAt? report.span.start report.config.offsetUnit with
  | some position => toString (position.column + 1)
  | none => "?"

/-- What is shown before the column: the header, and the place up to it. -/
def textBeforeColumn (report : Report) (source : Source) : List Char :=
  let pen := penOf report source
  report.shown
    (pen.rowText (headerRow report) ++ '\n' :: pen.indent ++
      pen.margin [pen.glyphs.leftTop, pen.glyphs.horizontalBar, '['] ++
      (referenceHead report source).toList)

/-- What is shown after the column: the end of the place, and the rows below. -/
def textAfterColumn (report : Report) (source : Source) (elideAfter : Int) : List Char :=
  let pen := penOf report source
  report.shown
    (pen.margin [']'] ++ '\n' ::
      joinRows ((rowsBelowLocation report source elideAfter).map pen.rowText))

theorem locationReference_eq_append (report : Report) (source : Source) :
    locationReference report source = referenceHead report source ++ columnText report source := by
  rw [locationReference, referenceHead, columnText]
  cases source.lineAt? report.span.start report.config.offsetUnit with
  | some position => rfl
  | none =>
      apply String.ext
      simp

theorem exists_referenceHead_eq (report : Report) (source : Source) :
    ∃ start, (referenceHead report source).toList = start ++ [':'] := by
  rw [referenceHead]
  cases source.lineAt? report.span.start report.config.offsetUnit with
  | some position =>
      exact ⟨_, String.toList_append⟩
  | none =>
      refine ⟨(sourceName report.span.source).toList ++ [':', '?'], ?_⟩
      simp

theorem escapeChar_not_mem_columnText (report : Report) (source : Source) :
    escapeChar ∉ (columnText report source).toList := by
  rw [columnText]
  cases source.lineAt? report.span.start report.config.offsetUnit with
  | some position =>
      simp only [Text.toList_toString_int]
      exact Text.escapeChar_not_mem_decimal _
  | none => decide

/-- A text without the escape character that follows a colon is shown as it is. -/
theorem Report.shown_append_append (report : Report) (start column rest : List Char)
    (hfree : escapeChar ∉ column) :
    report.shown (start ++ [':'] ++ column ++ rest) =
      report.shown (start ++ [':']) ++ column ++ report.shown rest := by
  have hcolon : EscapeForm.rendition.isPart ':' = false := by decide
  rw [shown, shown, shown]
  cases report.config.ansiMode with
  | on => rfl
  | off =>
      have hwhole := EscapeForm.rendition.strip_append_cons start (column ++ rest) hcolon
      have hstart := EscapeForm.rendition.strip_append_cons start [] hcolon
      rw [EscapeForm.rendition.strip_append_of_not_mem rest hfree] at hwhole
      simpa [hstart] using hwhole

theorem text_renderOver_eq_append (report : Report) (source : Source) (elideAfter : Int) :
    (renderOver report source elideAfter).text =
      textBeforeColumn report source ++ (columnText report source).toList ++
        textAfterColumn report source elideAfter := by
  obtain ⟨start, hstart⟩ := exists_referenceHead_eq report source
  have hfree := escapeChar_not_mem_columnText report source
  have hbelow :
      (rowsBelowLocation report source elideAfter).map (penOf report source).rowText ≠ [] :=
    fun hnil => rowsBelowLocation_ne_nil report source elideAfter (List.map_eq_nil_iff.mp hnil)
  rw [text_renderOver, rows_eq_cons, List.map_cons, List.map_cons,
    joinRows_cons _ (List.cons_ne_nil _ _), joinRows_cons _ hbelow, textBeforeColumn,
    textAfterColumn, hstart]
  rw [← List.append_assoc, ← Report.shown_append_append report _ _ _ hfree]
  congr 1
  simp [Pen.rowText, locationReference_eq_append, hstart]

end Diagnostics
