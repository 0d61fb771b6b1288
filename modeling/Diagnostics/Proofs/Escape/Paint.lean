import Diagnostics.Color.Basic
import Diagnostics.Proofs.Escape.Strip
import Diagnostics.Proofs.Text.Decimal

/-!
# Painted text

What selects a colour and what resets it are whole sequences that begin with the escape
character. They can neither complete a sequence of the text before them nor be drawn
into one, so removing the sequences of a painted text leaves what is left of the text
itself.
-/

namespace Diagnostics

namespace EscapeForm

variable (form : EscapeForm)

theorem bodyLength_append_of_forall {body : List Char} (rest : List Char)
    (hbody : ∀ c ∈ body, form.isParameter c) (hrest : form.bodyLength rest ≠ 0) :
    form.bodyLength (body ++ rest) = body.length + form.bodyLength rest := by
  obtain ⟨count, hcount⟩ := Nat.exists_eq_add_one_of_ne_zero hrest
  rw [hcount]
  induction body with
  | nil => rw [List.nil_append, hcount, List.length_nil, Nat.zero_add]
  | cons c body ih =>
      obtain ⟨hc, hrest⟩ := List.forall_mem_cons.mp hbody
      have htail : form.bodyLength (body ++ rest) = body.length + count + 1 := ih hrest
      rw [List.cons_append, bodyLength, if_pos hc, htail, List.length_cons]
      change body.length + count + 2 = body.length + 1 + (count + 1)
      omega

/-- What the sequences that select a rendition are made of may also stand in those of the form.
-/
structure Covers : Prop where
  parameter : ∀ c, rendition.isParameter c → form.isParameter c
  endsBody : form.isParameter 'm' = false
  final : form.isFinal 'm'

theorem covers_rendition : rendition.Covers :=
  ⟨fun _ => id, rfl, rfl⟩

theorem covers_control : control.Covers := by
  refine ⟨fun c hc => ?_, rfl, rfl⟩
  simp only [rendition, EscapeForm.control, Bool.or_eq_true] at hc ⊢
  exact .inl hc

end EscapeForm

open EscapeForm

theorem escapeChar_not_mem_replicate (count : Nat) {c : Char} (hc : c ≠ escapeChar) :
    escapeChar ∉ List.replicate count c :=
  fun hmem => hc (List.eq_of_mem_replicate hmem).symm

theorem escapeChar_not_mem_append {front back : String} (hfront : escapeChar ∉ front.toList)
    (hback : escapeChar ∉ back.toList) : escapeChar ∉ (front ++ back).toList := by
  rw [String.toList_append]
  exact List.not_mem_append hfront hback

/-- A whole sequence that selects a rendition. -/
def IsRendition (code : List Char) : Prop :=
  ∃ body, code = Color.selector body ∧ ∀ c ∈ body, rendition.isParameter c

theorem isParameter_of_isDigit {c : Char} (hdigit : c.isDigit) : rendition.isParameter c := by
  simp only [Char.isDigit, Bool.and_eq_true, decide_eq_true_eq] at hdigit
  simp only [rendition, Bool.or_eq_true, Bool.and_eq_true, decide_eq_true_eq]
  exact Or.inl hdigit

/-- A number behind parameters makes a whole sequence. -/
theorem isRendition_selector {lead : List Char} (n : Nat)
    (hlead : ∀ c ∈ lead, rendition.isParameter c) :
    IsRendition (Color.selector (lead ++ Text.decimalNat n)) := by
  refine ⟨_, rfl, ?_⟩
  intro c hc
  rcases List.mem_append.mp hc with hlead' | hdigit
  · exact hlead c hlead'
  · exact isParameter_of_isDigit (Text.isDigit_of_mem_decimalNat hdigit)

theorem isRendition_reset : IsRendition Color.reset :=
  ⟨['0'], rfl, List.forall_mem_singleton.mpr rfl⟩

theorem isRendition_foreground (color : Color) : IsRendition color.foreground := by
  cases color with
  | basic color => exact isRendition_selector (30 + color.index) (List.forall_mem_nil _)
  | palette index => exact isRendition_selector index (List.all_eq_true.mp rfl)

namespace IsRendition

variable {code : List Char} (hcode : IsRendition code)
include hcode

/-- A form that covers the renditions removes each of them whole, whatever follows it. -/
theorem strip_append_of_covers {form : EscapeForm} (hcovers : form.Covers) (rest : List Char) :
    form.strip (code ++ rest) = form.strip rest := by
  obtain ⟨body, rfl, hbody⟩ := hcode
  have hparameters : ∀ c ∈ body, form.isParameter c := fun c hc =>
    hcovers.parameter c (hbody c hc)
  have hfinal : form.bodyLength ('m' :: rest) = 1 := by
    simp [bodyLength, hcovers.endsBody, hcovers.final]
  have hlength := form.bodyLength_append_of_forall ('m' :: rest) hparameters (by simp [hfinal])
  rw [hfinal] at hlength
  have hsequence : form.sequenceLength (Color.selector body ++ rest) =
      (Color.selector body).length := by
    simp [Color.selector, sequenceLength, hlength]
  have hne : form.sequenceLength (Color.selector body ++ rest) ≠ 0 := by
    rw [hsequence]
    exact Nat.succ_ne_zero _
  rw [form.strip_eq_strip_drop hne, hsequence, List.drop_left]

theorem strip_append (rest : List Char) :
    rendition.strip (code ++ rest) = rendition.strip rest :=
  hcode.strip_append_of_covers covers_rendition rest

theorem apart (left rest : List Char) : rendition.Apart left (code ++ rest) := by
  obtain ⟨body, rfl, -⟩ := hcode
  exact rendition.apart_of_not_continues left _ (by decide)

end IsRendition

/-- Painting leaves no trace if the text stays apart from what follows it. -/
theorem strip_paint_append (color : Option Color) {text rest : List Char}
    (hapart : rendition.Apart text rest) :
    rendition.strip (paint color text ++ rest) = rendition.strip text ++ rendition.strip rest := by
  cases color with
  | none => exact hapart
  | some color =>
      have hreset := isRendition_reset.apart text rest
      rw [paint, List.append_assoc, List.append_assoc,
        (isRendition_foreground color).strip_append, hreset, isRendition_reset.strip_append]

theorem strip_paint_append_of_not_mem (color : Option Color) {text : List Char}
    (rest : List Char) (hfree : escapeChar ∉ text) :
    rendition.strip (paint color text ++ rest) = text ++ rendition.strip rest := by
  rw [strip_paint_append color (rendition.apart_of_not_mem rest hfree),
    rendition.strip_of_not_mem hfree]

theorem strip_paint_of_not_mem (color : Option Color) {text : List Char}
    (hfree : escapeChar ∉ text) : rendition.strip (paint color text) = text := by
  have hstrip := strip_paint_append_of_not_mem color [] hfree
  simpa using hstrip

/-- Painted or not, a text that begins with a dividing character stays apart from what
is before it. -/
theorem apart_paint (left : List Char) (color : Option Color) {c : Char} (text : List Char)
    (hc : rendition.continues c = false) : rendition.Apart left (paint color (c :: text)) := by
  cases color with
  | none => exact rendition.apart_of_not_continues left text hc
  | some color =>
      rw [paint, List.append_assoc]
      exact (isRendition_foreground color).apart left _

end Diagnostics
