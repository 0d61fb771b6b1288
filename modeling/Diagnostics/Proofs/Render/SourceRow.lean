import Diagnostics.Proofs.Render.Body
import Diagnostics.Proofs.Render.Expansion
import Diagnostics.Proofs.Text.Decimal

/-!
# Source rows

A source row is a single line: the text of its line is expanded, which leaves no blank
but the space in it, and neither the number, the bar nor their colour ends a line.
-/

namespace Diagnostics

theorem isBlank_of_isTerminator {c : Char} (hc : isTerminator c) : Text.isBlank c := by
  simp only [isTerminator, Bool.or_eq_true, decide_eq_true_eq] at hc
  rcases hc with (((((rfl | rfl) | rfl) | rfl) | rfl) | rfl) | rfl <;> decide

theorem isTerminator_eq_false_of_isDigit {c : Char} (hc : c.isDigit) : isTerminator c = false := by
  rw [Bool.eq_false_iff]
  intro hterminator
  simp only [isTerminator, Bool.or_eq_true, decide_eq_true_eq] at hterminator
  rcases hterminator with (((((rfl | rfl) | rfl) | rfl) | rfl) | rfl) | rfl <;>
    exact absurd hc (by decide)

/-- The text has no line terminator in it. -/
def OneLine (text : List Char) : Prop :=
  ∀ c ∈ text, isTerminator c = false

theorem oneLine_nil : OneLine [] := by
  intro c hc
  cases hc

theorem oneLine_cons {c : Char} {text : List Char} (hc : isTerminator c = false)
    (htext : OneLine text) : OneLine (c :: text) := by
  intro other hother
  rcases List.mem_cons.mp hother with rfl | hother
  · exact hc
  · exact htext other hother

theorem oneLine_append {left right : List Char} (hleft : OneLine left) (hright : OneLine right) :
    OneLine (left ++ right) := by
  intro c hc
  rcases List.mem_append.mp hc with hc | hc
  · exact hleft c hc
  · exact hright c hc

theorem oneLine_of_all {text : List Char} (hall : text.all fun c => !isTerminator c) :
    OneLine text := by
  intro c hc
  have hkept := List.all_eq_true.mp hall c hc
  simpa using hkept

theorem oneLine_decimalNat (n : Nat) : OneLine (Text.decimalNat n) :=
  fun _ hc => isTerminator_eq_false_of_isDigit (Text.isDigit_of_mem_decimalNat hc)

theorem oneLine_decimal (n : Int) : OneLine (Text.decimal n) := by
  cases n with
  | ofNat n => exact oneLine_decimalNat n
  | negSucc n => exact oneLine_cons (by decide) (oneLine_decimalNat _)

theorem oneLine_padLeft (width : Nat) {text : List Char} (htext : OneLine text) :
    OneLine (Text.padLeft width text) := by
  apply oneLine_append _ htext
  intro c hc
  rw [List.eq_of_mem_replicate hc]
  decide

theorem oneLine_selector {body : List Char} (hbody : OneLine body) :
    OneLine (Color.selector body) := by
  have hstart : OneLine [escapeChar, '['] := oneLine_of_all (by decide)
  have hend : OneLine ['m'] := oneLine_of_all (by decide)
  exact oneLine_append (oneLine_append hstart hbody) hend

theorem oneLine_paint (color : Option Color) {text : List Char} (htext : OneLine text) :
    OneLine (paint color text) := by
  have hreset : OneLine Color.reset := oneLine_of_all (by decide)
  cases color with
  | none => exact htext
  | some color =>
      refine oneLine_append (oneLine_append ?_ htext) hreset
      cases color with
      | basic color => exact oneLine_selector (oneLine_decimalNat _)
      | palette index =>
          apply oneLine_selector
          exact oneLine_append (oneLine_of_all (by decide)) (oneLine_decimalNat _)

theorem oneLine_expand (tabWidth : Int) (text : List Char) : OneLine (expand tabWidth text) := by
  intro c hc
  rw [Bool.eq_false_iff]
  intro hterminator
  rcases isBlank_of_mem_expandFrom tabWidth 0 text hc with rfl | hblank
  · exact absurd hterminator (by decide)
  · rw [isBlank_of_isTerminator hterminator] at hblank
    cases hblank

theorem oneLine_trimRight {text : List Char} (htext : OneLine text) :
    OneLine (Text.trimRight text) := by
  intro c hc
  rw [Text.trimRight, List.mem_reverse] at hc
  exact htext c (List.mem_reverse.mp ((List.dropWhile_sublist _).subset hc))

theorem isTerminator_verticalBar (charSet : CharSet) :
    isTerminator charSet.glyphs.verticalBar = false := by
  cases charSet <;> decide

/-- No source row of a report contains a line terminator. -/
theorem oneLine_rowText_of_mem_rows {report : Report} {source : Source} {elideAfter number : Int}
    {text : List Char} (hmem : .source number text ∈ rows report source elideAfter) :
    OneLine ((penOf report source).rowText (.source number text)) := by
  obtain ⟨label, -, heq⟩ := eq_sourceRow_of_mem_rows hmem
  rw [heq, sourceRow, Pen.rowText, Pen.margin]
  apply oneLine_append
  · apply oneLine_paint
    apply oneLine_append (oneLine_padLeft _ (oneLine_decimal _))
    exact oneLine_cons (by decide)
      (oneLine_cons (isTerminator_verticalBar report.config.charSet) oneLine_nil)
  · exact oneLine_cons (by decide) (oneLine_trimRight (oneLine_expand _ _))

end Diagnostics
