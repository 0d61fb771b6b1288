import Diagnostics.Proofs.Escape.Occurrence
import Diagnostics.Proofs.Escape.Paint

/-!
# Layers of paint

Text may be painted in the foreground and in the background any number of times. Wherever painted
text stands, the sequences around it and those in it are removed independently of each other,
since a sequence that selects a colour ends what came before it. The removal therefore leaves of a
text under layers of paint what it leaves of the text itself.
-/

namespace Diagnostics

open EscapeForm

inductive Layer where
  | foreground (color : Option Color)
  | background (color : Option Color)
  deriving DecidableEq, Repr

def Layer.apply : Layer → List Char → List Char
  | foreground color, text => paint color text
  | background color, text => paintBackground color text

/-- The text under the layers, the first of them innermost. -/
def layered (layers : List Layer) (text : List Char) : List Char :=
  layers.foldl (fun painted layer => layer.apply painted) text

theorem isRendition_background (color : Color) : IsRendition color.background := by
  cases color with
  | basic color => exact isRendition_selector (40 + color.index) (List.forall_mem_nil _)
  | palette index => exact isRendition_selector index (List.all_eq_true.mp rfl)

/-- A text between a rendition and the reset stays apart from what is around both. -/
theorem IsRendition.strip_between {code : List Char} (hcode : IsRendition code)
    (before text after : List Char) :
    rendition.strip (before ++ (code ++ text ++ Color.reset) ++ after) =
      rendition.strip before ++ rendition.strip text ++ rendition.strip after := by
  have hbefore := hcode.apart before (text ++ (Color.reset ++ after))
  have htext := isRendition_reset.apart text after
  calc
    rendition.strip (before ++ (code ++ text ++ Color.reset) ++ after) =
        rendition.strip (before ++ (code ++ (text ++ (Color.reset ++ after)))) := by
      simp only [List.append_assoc]
    _ = rendition.strip before ++ rendition.strip (text ++ (Color.reset ++ after)) := by
      rw [hbefore, hcode.strip_append]
    _ = rendition.strip before ++ (rendition.strip text ++ rendition.strip after) := by
      rw [htext, isRendition_reset.strip_append]
    _ = rendition.strip before ++ rendition.strip text ++ rendition.strip after :=
      (List.append_assoc _ _ _).symm

theorem Layer.strip_apply (layer : Layer) (text : List Char) :
    rendition.strip (layer.apply text) = rendition.strip text := by
  have hcolored : ∀ {code : List Char}, IsRendition code →
      rendition.strip (code ++ text ++ Color.reset) = rendition.strip text := by
    intro code hcode
    have hbetween := hcode.strip_between [] text []
    simpa using hbetween
  cases layer with
  | foreground color =>
      cases color with
      | none => rfl
      | some color => exact hcolored (isRendition_foreground color)
  | background color =>
      cases color with
      | none => rfl
      | some color => exact hcolored (isRendition_background color)

theorem strip_layered (layers : List Layer) (text : List Char) :
    rendition.strip (layered layers text) = rendition.strip text := by
  induction layers generalizing text with
  | nil => rfl
  | cons layer rest ih => exact (ih (layer.apply text)).trans (layer.strip_apply text)

/-- Whatever stands around a painted text, removing the sequences undoes the paint. Under any
layers, nothing but the text is left exactly if no sequence occurs in it. -/
theorem strip_undoes_paint :
    (∀ (color : Color) (before text after : List Char),
        rendition.strip (before ++ paint (some color) text ++ after) =
            rendition.strip before ++ rendition.strip text ++ rendition.strip after ∧
          rendition.strip (before ++ paintBackground (some color) text ++ after) =
            rendition.strip before ++ rendition.strip text ++ rendition.strip after) ∧
      ∀ (layers : List Layer) (text : List Char),
        rendition.strip (layered layers text) = rendition.strip text ∧
          (rendition.strip (layered layers text) = text ↔ ¬rendition.Occurs text) := by
  refine ⟨fun color before text after => ⟨?_, ?_⟩, fun layers text => ?_⟩
  · exact (isRendition_foreground color).strip_between before text after
  · exact (isRendition_background color).strip_between before text after
  · rw [strip_layered]
    exact ⟨rfl, rendition.strip_eq_self_iff text⟩

/-- Half a sequence in front of the paint and the other half under it stay what they are. -/
example :
    rendition.strip (['\x1b', '['] ++ paint (some (.palette 9)) ['3', 'm'] ++ ['m']) =
      ['\x1b', '[', '3', 'm', 'm'] := by
  decide

end Diagnostics
