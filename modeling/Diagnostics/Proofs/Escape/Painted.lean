import Mathlib.Data.List.Forall2
import Diagnostics.Proofs.Escape.Paint

/-!
# Texts with nothing but paint in them

A text of which all escape sequences select a rendition, each whole, and all other characters are
no escape characters. Removing the renditions leaves the other characters. Removing the sequences
of a wider form leaves the same: no sequence of either form reaches past the end of a rendition.
-/

namespace Diagnostics

open EscapeForm

/-- `painted` is `plain` with whole renditions put in. -/
inductive Painted : (painted plain : List Char) → Prop
  | nil : Painted [] []
  | cons {c : Char} {painted plain : List Char} (hc : c ≠ escapeChar)
      (rest : Painted painted plain) : Painted (c :: painted) (c :: plain)
  | code {code painted plain : List Char} (hcode : IsRendition code)
      (rest : Painted painted plain) : Painted (code ++ painted) plain

namespace Painted

variable {painted plain : List Char}

theorem of_not_mem {text : List Char} (hfree : escapeChar ∉ text) : Painted text text := by
  induction text with
  | nil => exact .nil
  | cons c rest ih =>
      rw [List.mem_cons, not_or] at hfree
      exact .cons (Ne.symm hfree.1) (ih hfree.2)

theorem append (hpainted : Painted painted plain) {painted' plain' : List Char}
    (hpainted' : Painted painted' plain') : Painted (painted ++ painted') (plain ++ plain') := by
  induction hpainted with
  | nil => exact hpainted'
  | cons hc _ ih => exact .cons hc ih
  | code hcode _ ih =>
      rw [List.append_assoc]
      exact .code hcode ih

theorem paint (hpainted : Painted painted plain) (color : Option Color) :
    Painted (paint color painted) plain := by
  cases color with
  | none => exact hpainted
  | some color =>
      have hreset : Painted Color.reset [] := by
        have hcode := Painted.code isRendition_reset .nil
        rwa [List.append_nil] at hcode
      have hbody := hpainted.append hreset
      rw [List.append_nil] at hbody
      rw [Diagnostics.paint, List.append_assoc]
      exact .code (isRendition_foreground color) hbody

/-- Texts with a plain separator between them. -/
theorem intersperse {separator : List Char} (hfree : escapeChar ∉ separator)
    {texts plains : List (List Char)} (htexts : List.Forall₂ Painted texts plains) :
    Painted (texts.intersperse separator).flatten (plains.intersperse separator).flatten := by
  induction htexts with
  | nil => exact .nil
  | @cons first plainFirst rest plainRest hfirst hrest ih =>
      cases hrest with
      | nil => simpa using hfirst
      | cons hsecond hothers => exact hfirst.append ((of_not_mem hfree).append ih)

theorem escapeChar_not_mem (hpainted : Painted painted plain) : escapeChar ∉ plain := by
  induction hpainted with
  | nil => exact List.not_mem_nil
  | cons hc _ ih =>
      rw [List.mem_cons, not_or]
      exact ⟨Ne.symm hc, ih⟩
  | code _ _ ih => exact ih

/-- Every form that covers the renditions takes away the paint and nothing else. -/
theorem strip_eq {form : EscapeForm} (hcovers : form.Covers) (hpainted : Painted painted plain) :
    form.strip painted = plain := by
  induction hpainted with
  | nil => rfl
  | cons hc _ ih => rw [form.strip_cons_of_ne _ _ hc, ih]
  | code hcode _ ih => rw [hcode.strip_append_of_covers hcovers, ih]

end Painted

end Diagnostics
