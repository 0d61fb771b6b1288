import Diagnostics.Proofs.Render.Outcome
import Diagnostics.Proofs.Render.Stripped
import Diagnostics.Usual

/-!
# Sequences that are left in plain text

With escape sequences off, what is shown of a text of the report or of its source is that
text after one removal. A removal may leave a sequence where one stood around another,
and such sequences are all that the rendered text can hold: nothing that is drawn around
the texts begins one or completes one.
-/

namespace Diagnostics

open EscapeForm

theorem Row.decolored_mapTexts (f : List Char → List Char) (row : Row) :
    (row.decolored.mapTexts f).decolored = row.decolored.mapTexts f := by
  cases row <;> rfl

theorem isInfix_paint (color : Option Color) (text : List Char) : text <:+: paint color text := by
  cases color with
  | none => exact List.infix_rfl
  | some color => exact List.infix_append _ _ _

theorem Pen.isInfix_rowText (pen : Pen) {row : Row} {text : List Char} (hmem : text ∈ row.texts) :
    text <:+: pen.rowText row := by
  cases row with
  | header label color msg =>
      rcases List.mem_pair.mp hmem with rfl | rfl
      · exact (isInfix_paint color _).trans (List.prefix_append _ _).isInfix
      · exact ⟨paint color label.toList ++ [':', ' '], [], by simp [rowText]⟩
  | location reference =>
      obtain rfl := List.mem_singleton.mp hmem
      exact List.infix_append _ _ _
  | source number line =>
      obtain rfl := List.mem_singleton.mp hmem
      exact ((List.suffix_cons _ _).trans (List.suffix_append _ _)).isInfix
  | arrow label msg =>
      obtain rfl := List.mem_singleton.mp hmem
      exact ((List.suffix_cons _ _).trans (List.suffix_append _ _)).isInfix
  | note msg =>
      obtain rfl := List.mem_singleton.mp hmem
      exact ⟨pen.noteTitle "note" ++ [':', ' '], [], by simp [rowText]⟩
  | help msg =>
      obtain rfl := List.mem_singleton.mp hmem
      exact ⟨pen.noteTitle "help" ++ [':', ' '], [], by simp [rowText]⟩
  | _ => cases hmem

/-- A row without colour holds a sequence exactly if one of its texts does. -/
theorem Pen.occurs_plain_rowText_iff {pen : Pen} (hglyphs : escapeChar ∉ pen.glyphs.drawn)
    {row : Row} (hplain : row.decolored = row) :
    rendition.Occurs (pen.plain.rowText row) ↔ ∃ text ∈ row.texts, rendition.Occurs text := by
  constructor
  · intro hoccurs
    by_contra hnone
    have hkept : ∀ text ∈ row.texts, rendition.strip text = text := fun text hmem =>
      (rendition.strip_eq_self_iff text).mpr fun hoccurs => hnone ⟨text, hmem, hoccurs⟩
    have hplainGlyphs : escapeChar ∉ pen.plain.glyphs.drawn := hglyphs
    have hstrip : rendition.strip (pen.plain.rowText row) = pen.plain.rowText row := by
      rw [strip_rowText hplainGlyphs, hplain, Row.mapTexts_eq_self hkept]
      rfl
    exact (rendition.strip_eq_self_iff _).mp hstrip hoccurs
  · rintro ⟨text, hmem, hoccurs⟩
    exact hoccurs.of_isInfix (pen.plain.isInfix_rowText hmem)

theorem occurs_joinRows_iff (texts : List (List Char)) :
    rendition.Occurs (joinRows texts) ↔ ∃ text ∈ texts, rendition.Occurs text := by
  induction texts with
  | nil => simp [joinRows, Occurs]
  | cons text rest ih =>
      cases rest with
      | nil => simp [joinRows]
      | cons second rest =>
          have hapart : rendition.Apart text ('\n' :: joinRows (second :: rest)) :=
            rendition.apart_of_not_continues _ _ (by decide)
          rw [joinRows_cons text (List.cons_ne_nil second rest), rendition.occurs_append_iff hapart,
            rendition.occurs_cons_of_ne _ (by decide), ih]
          simp only [List.exists_mem_cons_iff]

theorem occurs_text_renderOver_iff {report : Report} (hansi : report.config.ansiMode = .off)
    (source : Source) (elideAfter : Int) :
    rendition.Occurs (renderOver report source elideAfter).text ↔
      ∃ row ∈ rows report source elideAfter, ∃ text ∈ row.texts,
        rendition.Occurs (rendition.strip text) := by
  have hglyphs : escapeChar ∉ (penOf report source).glyphs.drawn :=
    report.config.charSet.escapeChar_not_mem_drawn
  have hrow : ∀ row : Row,
      rendition.Occurs ((penOf report source).plain.rowText
        (row.decolored.mapTexts rendition.strip)) ↔
      ∃ text ∈ row.texts, rendition.Occurs (rendition.strip text) := by
    intro row
    rw [Pen.occurs_plain_rowText_iff hglyphs (row.decolored_mapTexts _), Row.texts_mapTexts,
      Row.texts_decolored]
    simp only [List.mem_map, exists_exists_and_eq_and]
  rw [text_renderOver_of_off hansi, occurs_joinRows_iff]
  simp only [List.mem_map, exists_exists_and_eq_and, hrow]

/-- With escape sequences off, a rendered text holds a sequence exactly if one is left in
a text of one of its rows; removing the sequences once more then changes it. -/
theorem occurs_text_of_off_iff [Platform] {report : Report} {cache : Cache} {elideAfter : Int}
    {rendering : Rendering} (hansi : report.config.ansiMode = .off)
    (hrender : render report cache elideAfter = .ok rendering) :
    (rendition.strip rendering.text = rendering.text ↔ ¬rendition.Occurs rendering.text) ∧
      ∃ source, cache.fetch (sourceName report.span.source) = .ok source ∧
        (rendition.Occurs rendering.text ↔
          ∃ row ∈ rows report source elideAfter, ∃ text ∈ row.texts,
            rendition.Occurs (rendition.strip text)) := by
  refine ⟨rendition.strip_eq_self_iff rendering.text, ?_⟩
  cases hfetch : cache.fetch (sourceName report.span.source) with
  | error cause =>
      rw [render_of_missing hfetch] at hrender
      cases hrender
  | ok source =>
      rw [eq_renderOver_of_render hfetch hrender]
      exact ⟨source, rfl, occurs_text_renderOver_iff hansi source elideAfter⟩

/-! A note in which a whole sequence stands within another one. -/

def nestedNote : String := "\x1b[\x1b[0m31mred"

def nestedCache : Cache := .ofList [("far", ⟨[], 0⟩)]

def nestedReport : Report where
  span := ⟨some "far", 0, 0⟩
  notes := [some nestedNote]
  config := { Config.default with ansiMode := .off }

theorem occurs_text_nestedReport :
    ∃ rendering, render nestedReport nestedCache 2 = .ok rendering ∧
      rendition.Occurs rendering.text := by
  have hfetch : nestedCache.fetch (sourceName nestedReport.span.source) = .ok ⟨[], 0⟩ := rfl
  have hnumbers : Source.NumbersFit ⟨[], 0⟩ := Source.numbersFit_of_isWord (by decide) (by decide)
  have hrender := render_of_no_fault hfetch (firstFault?_eq_none (by decide) hnumbers) 2
  obtain ⟨-, source, hsource, hoccurs⟩ := occurs_text_of_off_iff rfl hrender
  refine ⟨_, hrender, hoccurs.mpr ⟨.note nestedNote, ?_, nestedNote.toList, ?_, ?_⟩⟩
  · simp [rows, nestedReport, noteText]
  · exact List.mem_singleton_self _
  · exact ⟨[], ['3', '1'], 'm', ['r', 'e', 'd'], by decide, List.all_eq_true.mp rfl, rfl, rfl⟩

end Diagnostics
