import Mathlib.Logic.Basic
import Diagnostics.Proofs.Escape.Strip

/-!
# Where sequences occur

A text keeps all its characters in the removal of escape sequences exactly if none
occurs in it. Of two texts that stay apart, the whole is free of sequences if both parts
are. What is left after a removal may hold sequences again, since a sequence may have
stood in the middle of another one.
-/

namespace Diagnostics.EscapeForm

variable (form : EscapeForm)

/-- Somewhere in the text, the escape character and an opening bracket are followed by
parameters and a final character. -/
def Occurs (text : List Char) : Prop :=
  ∃ before body final after, text = before ++ escapeChar :: '[' :: (body ++ final :: after) ∧
    (∀ c ∈ body, form.isParameter c) ∧ form.isParameter final = false ∧ form.isFinal final

theorem bodyLength_ne_zero_iff (text : List Char) :
    form.bodyLength text ≠ 0 ↔ ∃ body final after, text = body ++ final :: after ∧
      (∀ c ∈ body, form.isParameter c) ∧ form.isParameter final = false ∧ form.isFinal final := by
  induction text with
  | nil => simp [bodyLength]
  | cons c rest ih =>
      by_cases hparameter : form.isParameter c
      · have hstep : form.bodyLength (c :: rest) ≠ 0 ↔ form.bodyLength rest ≠ 0 := by
          rw [bodyLength, if_pos hparameter]
          cases form.bodyLength rest <;> simp
        rw [hstep, ih]
        constructor
        · rintro ⟨body, final, after, rfl, hbody, hfinal⟩
          exact ⟨c :: body, final, after, rfl, List.forall_mem_cons.mpr ⟨hparameter, hbody⟩, hfinal⟩
        · rintro ⟨body, final, after, htext, hbody, hfinal⟩
          cases body with
          | nil =>
              obtain ⟨rfl, -⟩ := List.cons.inj htext
              rw [hparameter] at hfinal
              cases hfinal.1
          | cons first body =>
              obtain ⟨-, rfl⟩ := List.cons.inj htext
              exact ⟨body, final, after, rfl, (List.forall_mem_cons.mp hbody).2, hfinal⟩
      · have hstep : form.bodyLength (c :: rest) ≠ 0 ↔ form.isFinal c := by
          rw [bodyLength, if_neg hparameter]
          cases form.isFinal c <;> simp
        rw [hstep]
        constructor
        · intro hfinal
          exact ⟨[], c, rest, rfl, List.forall_mem_nil _, by simpa using hparameter, hfinal⟩
        · rintro ⟨body, final, after, htext, hbody, hfinal⟩
          cases body with
          | nil =>
              obtain ⟨rfl, -⟩ := List.cons.inj htext
              exact hfinal.2
          | cons first body =>
              obtain ⟨rfl, -⟩ := List.cons.inj htext
              exact absurd (List.forall_mem_cons.mp hbody).1 hparameter

theorem sequenceLength_ne_zero_iff (text : List Char) :
    form.sequenceLength text ≠ 0 ↔
      ∃ rest, text = escapeChar :: '[' :: rest ∧ form.bodyLength rest ≠ 0 := by
  match text with
  | [] => simp [sequenceLength]
  | [c] => simp [sequenceLength]
  | a :: b :: rest =>
      by_cases hstart : a = escapeChar ∧ b = '['
      · obtain ⟨rfl, rfl⟩ := hstart
        have hstep : form.sequenceLength (escapeChar :: '[' :: rest) ≠ 0 ↔
            form.bodyLength rest ≠ 0 := by
          rw [sequenceLength, if_pos ⟨rfl, rfl⟩]
          cases form.bodyLength rest <;> simp
        simp [hstep]
      · constructor
        · rw [sequenceLength, if_neg hstart]
          exact fun hne => absurd rfl hne
        · rintro ⟨other, heq, -⟩
          simp only [List.cons.injEq] at heq
          exact absurd ⟨heq.1, heq.2.1⟩ hstart

theorem occurs_iff_exists_append (text : List Char) :
    form.Occurs text ↔ ∃ before rest, text = before ++ rest ∧ form.sequenceLength rest ≠ 0 := by
  simp only [sequenceLength_ne_zero_iff, bodyLength_ne_zero_iff]
  constructor
  · rintro ⟨before, body, final, after, htext, hbody⟩
    exact ⟨before, _, htext, _, rfl, body, final, after, rfl, hbody⟩
  · rintro ⟨before, _, htext, _, rfl, body, final, after, rfl, hbody⟩
    exact ⟨before, body, final, after, htext, hbody⟩

/-- A sequence is at the start of a text or in the rest of it. -/
theorem occurs_cons_iff (c : Char) (rest : List Char) :
    form.Occurs (c :: rest) ↔ form.sequenceLength (c :: rest) ≠ 0 ∨ form.Occurs rest := by
  simp only [occurs_iff_exists_append]
  constructor
  · rintro ⟨before, after, htext, hne⟩
    cases before with
    | nil =>
        rw [List.nil_append] at htext
        exact Or.inl (htext ▸ hne)
    | cons first before =>
        obtain ⟨-, rfl⟩ := List.cons.inj htext
        exact Or.inr ⟨before, after, rfl, hne⟩
  · rintro (hne | ⟨before, after, rfl, hne⟩)
    · exact ⟨[], c :: rest, rfl, hne⟩
    · exact ⟨c :: before, after, rfl, hne⟩

theorem occurs_cons_of_ne {c : Char} (rest : List Char) (hc : c ≠ escapeChar) :
    form.Occurs (c :: rest) ↔ form.Occurs rest := by
  have hzero : form.sequenceLength (c :: rest) = 0 := by
    cases rest <;> simp [sequenceLength, hc]
  rw [occurs_cons_iff, hzero]
  simp

variable {form} in
theorem Occurs.of_isInfix {part text : List Char} (hoccurs : form.Occurs part)
    (hpart : part <:+: text) : form.Occurs text := by
  obtain ⟨lead, trail, rfl⟩ := hpart
  obtain ⟨before, body, final, after, rfl, hsequence⟩ := hoccurs
  exact ⟨lead ++ before, body, final, after ++ trail, by simp, hsequence⟩

theorem strip_sublist (text : List Char) : (form.strip text).Sublist text := by
  suffices hskip : ∀ skip, (form.stripFrom skip text).Sublist text from hskip 0
  induction text with
  | nil => exact fun _ => List.nil_sublist _
  | cons c rest ih =>
      intro skip
      cases skip with
      | succ skip => exact (ih skip).cons c
      | zero =>
          rw [stripFrom]
          split
          · exact (ih 0).cons_cons c
          · exact (ih _).cons c

/-- Removal changes a text exactly if there is a sequence in it. -/
theorem strip_eq_self_iff (text : List Char) : form.strip text = text ↔ ¬form.Occurs text := by
  induction text with
  | nil => simp [Occurs]
  | cons c rest ih =>
      rw [occurs_cons_iff, not_or, not_not, ← ih]
      constructor
      · intro hsame
        have hzero : form.sequenceLength (c :: rest) = 0 := by
          refine of_not_not fun hne => ?_
          rw [form.strip_eq_strip_drop hne] at hsame
          have hlength := (form.strip_sublist
            ((c :: rest).drop (form.sequenceLength (c :: rest)))).length_le
          rw [hsame, List.length_drop, List.length_cons] at hlength
          omega
        rw [strip, stripFrom, hzero] at hsame
        exact ⟨hzero, (List.cons.inj hsame).2⟩
      · rintro ⟨hzero, hsame⟩
        rw [strip, stripFrom, hzero]
        exact congrArg (c :: ·) hsame

/-- The parts of a whole from which nothing is removed lose nothing either. -/
theorem strip_append_eq_iff {left right : List Char} (hapart : form.Apart left right) :
    form.strip (left ++ right) = left ++ right ↔
      form.strip left = left ∧ form.strip right = right := by
  rw [hapart]
  constructor
  · intro hsame
    have hleft := form.strip_sublist left
    have hright := form.strip_sublist right
    have hlength := congrArg List.length hsame
    rw [List.length_append, List.length_append] at hlength
    have hleftLength := hleft.length_le
    have hrightLength := hright.length_le
    exact ⟨hleft.eq_of_length (by omega), hright.eq_of_length (by omega)⟩
  · rintro ⟨hleft, hright⟩
    rw [hleft, hright]

theorem occurs_append_iff {left right : List Char} (hapart : form.Apart left right) :
    form.Occurs (left ++ right) ↔ form.Occurs left ∨ form.Occurs right := by
  rw [← not_iff_not, not_or, ← strip_eq_self_iff, ← strip_eq_self_iff, ← strip_eq_self_iff]
  exact form.strip_append_eq_iff hapart

end Diagnostics.EscapeForm
