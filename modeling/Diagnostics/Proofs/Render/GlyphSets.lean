import Diagnostics.Proofs.Render.Cells

/-!
# Renderings in either glyph set

A report is rendered in both glyph sets by the same cells, so that rows stand in the same places and
are of the same length. In ASCII, nothing comes into a rendering that is not of ASCII but what the
report and its source bring along.
-/

namespace Diagnostics

open Text EscapeForm

/-- Renderings of the report with either glyph set are the same cells, drawn with the glyphs of that
set. -/
structure DrawnByCells [Platform] (report : Report) (cache : Cache) (elideAfter : Int) : Prop where
  render_eq : ∀ charSet : CharSet, render (report.withCharSet charSet) cache elideAfter =
    match cache.fetch (sourceName report.span.source) with
    | .error cause => .error (.missing cause)
    | .ok source =>
        match firstFault? report source with
        | some fault => .error (.ofFault report source fault)
        | none =>
            .ok ⟨charSet.glyphs.fill (report.cells source elideAfter), droppedLabels report source⟩
  succeeds : report.config.tabWidth < Platform.memoryBound → ∀ source : Source,
    source.NumbersFit → firstFault? report source = none
  /-- Lines end at the same cells. -/
  lines : ∀ source (charSet : CharSet),
    (charSet.glyphs.fill (report.cells source elideAfter)).splitOn '\n' =
      ((report.cells source elideAfter).splitOn (.char '\n')).map charSet.glyphs.fill
  lengths : ∀ source (charSet other : CharSet),
    ((charSet.glyphs.fill (report.cells source elideAfter)).splitOn '\n').map List.length =
      ((other.glyphs.fill (report.cells source elideAfter)).splitOn '\n').map List.length
  ascii : ∀ source, (∀ c, report.Gives source c → c.toNat < 128) →
    ∀ c ∈ CharSet.ascii.glyphs.fill (report.cells source elideAfter), c.toNat < 128

/-! ### Characters of ASCII -/

namespace Text

/-- All characters are of ASCII. -/
def AllAscii (text : List Char) : Prop :=
  ∀ c ∈ text, c.toNat < 128

instance (text : List Char) : Decidable (AllAscii text) :=
  List.decidableBAll (fun c : Char => c.toNat < 128) text

namespace AllAscii

theorem append {front back : List Char} (hfront : AllAscii front) (hback : AllAscii back) :
    AllAscii (front ++ back) :=
  List.forall_mem_append.mpr ⟨hfront, hback⟩

theorem cons {c : Char} {rest : List Char} (hc : c.toNat < 128) (hrest : AllAscii rest) :
    AllAscii (c :: rest) :=
  List.forall_mem_cons.mpr ⟨hc, hrest⟩

theorem replicate (count : Nat) {c : Char} (hc : c.toNat < 128) :
    AllAscii (List.replicate count c) := by
  intro other hother
  rwa [List.eq_of_mem_replicate hother]

theorem decimal (n : Int) : AllAscii (Text.decimal n) := by
  intro c hc
  exact Nat.lt_of_lt_of_le (allTypewritten_decimal n c hc).2 (by decide)

theorem of_isRendition {code : List Char} (hcode : IsRendition code) : AllAscii code := by
  obtain ⟨body, rfl, hbody⟩ := hcode
  have hparameters : AllAscii body := by
    intro c hc
    have hparameter := hbody c hc
    simp only [rendition, Bool.or_eq_true, Bool.and_eq_true, decide_eq_true_eq]
      at hparameter
    obtain ⟨-, hle⟩ | rfl := hparameter
    · exact Nat.lt_of_le_of_lt hle (by decide)
    · decide
  exact .cons (by decide) (.cons (by decide) (hparameters.append (by decide)))

theorem paint (color : Option Color) {text : List Char} (htext : AllAscii text) :
    AllAscii (Diagnostics.paint color text) := by
  cases color with
  | none => exact htext
  | some color =>
      exact ((of_isRendition (isRendition_foreground color)).append htext).append
        (of_isRendition isRendition_reset)

end AllAscii

end Text

namespace Pen

variable {pen : Pen} (hglyphs : AllAscii pen.glyphs.drawn)
include hglyphs

theorem allAscii_gutter : AllAscii pen.gutter :=
  (AllAscii.replicate _ (by decide)).append
    (.paint _ (.cons (hglyphs _ (pen.glyphs.glyph_mem_drawn .verticalBar)) (by decide)))

/-- With glyphs of ASCII, a row is all ASCII if its texts are. -/
theorem allAscii_rowText {row : Row} (htexts : ∀ text ∈ row.texts, AllAscii text) :
    AllAscii (pen.rowText row) := by
  have hglyph : ∀ role, (pen.glyphs.glyph role).toNat < 128 := fun role =>
    hglyphs _ (pen.glyphs.glyph_mem_drawn role)
  have hblanks : ∀ count : Nat, AllAscii (' ' :: List.replicate count ' ') := fun count =>
    .replicate (count + 1) (by decide)
  cases row with
  | header label color msg =>
      obtain ⟨hlabel, hmsg⟩ := List.forall_mem_cons.mp htexts
      have hmsg := List.forall_mem_singleton.mp hmsg
      exact (AllAscii.paint color hlabel).append (.cons (by decide) (.cons (by decide) hmsg))
  | location reference =>
      have hreference := List.forall_mem_singleton.mp htexts
      have hcorner : AllAscii [pen.glyphs.leftTop, pen.glyphs.horizontalBar, '['] :=
        .cons (hglyph .leftTop) (.cons (hglyph .horizontalBar) (by decide))
      have hindent : AllAscii pen.indent := .replicate _ (by decide)
      exact ((hindent.append (.paint _ hcorner)).append hreference).append (.paint _ (by decide))
  | gutter => exact allAscii_gutter hglyphs
  | elision => exact .paint _ (by decide)
  | source number text =>
      have htext := List.forall_mem_singleton.mp htexts
      have hnumber : AllAscii (Text.padLeft pen.width (Text.decimal number)) :=
        (AllAscii.replicate _ (by decide)).append (.decimal number)
      have hbar : AllAscii [' ', pen.glyphs.verticalBar] :=
        .cons (by decide) (.cons (hglyph .verticalBar) (by decide))
      exact (AllAscii.paint _ (hnumber.append hbar)).append (.cons (by decide) htext)
  | underline label =>
      have hunderline : AllAscii (pen.underlineGlyphs label) := by
        intro c hc
        obtain rfl | rfl := mem_markedBar hc
        · exact hglyph .underline
        · exact hglyph .middleUnderbar
      exact ((allAscii_gutter hglyphs).append (hblanks _)).append (.paint _ hunderline)
  | arrow label msg =>
      have hmsg := List.forall_mem_singleton.mp htexts
      have harrow : AllAscii (pen.arrowGlyphs label) :=
        .cons (hglyph .leftBottom) (.replicate _ (hglyph .horizontalBar))
      exact (((allAscii_gutter hglyphs).append (hblanks _)).append (.paint _ harrow)).append
        (.cons (by decide) hmsg)
  | border =>
      have hcorner : AllAscii [pen.glyphs.rightBottom] :=
        .cons (hglyph .rightBottom) (by decide)
      exact .paint _ ((AllAscii.replicate _ (hglyph .horizontalBar)).append hcorner)
  | note text =>
      have htext := List.forall_mem_singleton.mp htexts
      exact (AllAscii.paint _ (by decide)).append (.cons (by decide) (.cons (by decide) htext))
  | help text =>
      have htext := List.forall_mem_singleton.mp htexts
      exact (AllAscii.paint _ (by decide)).append (.cons (by decide) (.cons (by decide) htext))

end Pen

theorem allAscii_joinRows {texts : List (List Char)} (htexts : ∀ text ∈ texts, AllAscii text) :
    AllAscii (joinRows texts) := by
  induction texts with
  | nil => exact List.forall_mem_nil _
  | cons text rest ih =>
      obtain ⟨htext, hrest⟩ := List.forall_mem_cons.mp htexts
      cases rest with
      | nil => simpa [joinRows] using htext
      | cons second rest =>
          rw [joinRows_cons text (List.cons_ne_nil second rest)]
          exact htext.append (.cons (by decide) (ih hrest))

theorem Report.shown_sublist (report : Report) (text : List Char) :
    (report.shown text).Sublist text := by
  cases hansi : report.config.ansiMode with
  | on => rw [report.shown_of_on hansi]
  | off =>
      rw [report.shown_of_off hansi]
      exact rendition.strip_sublist text

theorem allAscii_fill {report : Report} {source : Source}
    (hgiven : ∀ c, report.Gives source c → c.toNat < 128) (elideAfter : Int) :
    AllAscii (CharSet.ascii.glyphs.fill (report.cells source elideAfter)) := by
  have hglyphs : AllAscii (penOf (report.withCharSet .ascii) source).glyphs.drawn := by
    change AllAscii CharSet.ascii.glyphs.drawn
    decide
  have htexts : ∀ row ∈ rows report source elideAfter, ∀ text ∈ row.texts, AllAscii text := by
    intro row hrow text htext c hc
    obtain hgives | htypewritten := Report.MakesUp.of_mem_rows hrow text htext c hc
    · exact hgiven c hgives
    · exact Nat.lt_of_lt_of_le htypewritten.2 (by decide)
  have hrows := allAscii_joinRows (List.forall_mem_map.mpr fun row hrow =>
    Pen.allAscii_rowText hglyphs (htexts row hrow))
  have htext := text_withCharSet report source .ascii elideAfter
  rw [text_renderOver, rows_withCharSet] at htext
  intro c hc
  apply hrows c
  exact (Report.shown_sublist _ _).subset (htext ▸ hc)

/-- The glyph set decides about nothing but the glyphs. -/
theorem drawnByCells [Platform] (report : Report) (cache : Cache) (elideAfter : Int) :
    DrawnByCells report cache elideAfter where
  render_eq charSet := render_withCharSet_eq report charSet elideAfter cache
  succeeds hfits _ hnumbers := firstFault?_eq_none hfits hnumbers
  lines source charSet := charSet.glyphs.splitOn_fill charSet.newline_not_mem_drawn _
  lengths source charSet other := by
    rw [charSet.glyphs.splitOn_fill charSet.newline_not_mem_drawn,
      other.glyphs.splitOn_fill other.newline_not_mem_drawn, List.map_map, List.map_map]
    congr 1
    funext cells
    simp [Glyphs.fill]
  ascii source hgiven := allAscii_fill hgiven elideAfter

end Diagnostics
