import Diagnostics.Escape

/-!
# Removal of escape sequences in parts

A character that cannot stand behind the first one of a sequence divides a text: the
sequences on its left and on its right are removed independently of each other. A text
without the escape character stays as it is, whatever follows it.
-/

namespace Diagnostics.EscapeForm

variable (form : EscapeForm)

/-- Whether a character may stand in a sequence of the form. -/
def isPart (c : Char) : Bool :=
  c = escapeChar || c = '[' || form.isParameter c || form.isFinal c

/-- Whether a character may stand in a sequence of the form behind its first character.
-/
def continues (c : Char) : Bool :=
  c = '[' || form.isParameter c || form.isFinal c

theorem isPart_eq_false_iff (c : Char) :
    form.isPart c = false ↔ c ≠ escapeChar ∧ form.continues c = false := by
  simp [isPart, continues, and_assoc]

theorem bodyLength_append_cons (left right : List Char) {c : Char}
    (hc : form.continues c = false) :
    form.bodyLength (left ++ c :: right) = form.bodyLength left := by
  simp only [continues, Bool.or_eq_false_iff] at hc
  induction left with
  | nil => simp [bodyLength, hc]
  | cons first rest ih => simp [bodyLength, ih]

theorem sequenceLength_append_cons (first : Char) (left right : List Char) {c : Char}
    (hc : form.continues c = false) :
    form.sequenceLength (first :: left ++ c :: right) = form.sequenceLength (first :: left) := by
  cases left with
  | nil =>
      simp only [continues, Bool.or_eq_false_iff, decide_eq_false_iff_not] at hc
      simp [sequenceLength, hc]
  | cons second rest => simp [sequenceLength, form.bodyLength_append_cons rest right hc]

theorem bodyLength_le_length (text : List Char) : form.bodyLength text ≤ text.length := by
  induction text with
  | nil => simp [bodyLength]
  | cons c rest ih =>
      simp only [bodyLength, List.length_cons]
      split
      · split <;> omega
      · split <;> omega

theorem sequenceLength_le_length (text : List Char) : form.sequenceLength text ≤ text.length := by
  match text with
  | [] => simp [sequenceLength]
  | [c] => simp [sequenceLength]
  | a :: b :: rest =>
      have hbody := form.bodyLength_le_length rest
      simp only [sequenceLength, List.length_cons]
      split
      · split <;> omega
      · omega

theorem stripFrom_append_cons {skip : Nat} (left right : List Char) {c : Char}
    (hc : form.continues c = false) (hskip : skip ≤ left.length) :
    form.stripFrom skip (left ++ c :: right) =
      form.stripFrom skip left ++ form.strip (c :: right) := by
  induction left generalizing skip with
  | nil =>
      obtain rfl := Nat.le_zero.mp hskip
      rfl
  | cons first rest ih =>
      cases skip with
      | succ skip =>
          simp only [List.cons_append, stripFrom]
          exact ih (by simpa using hskip)
      | zero =>
          have hlength := form.sequenceLength_le_length (first :: rest)
          have hsame := form.sequenceLength_append_cons first rest right hc
          simp only [List.cons_append, stripFrom] at hsame ⊢
          rw [hsame]
          cases hsequence : form.sequenceLength (first :: rest) with
          | zero => simp [ih (Nat.zero_le _)]
          | succ count =>
              rw [hsequence, List.length_cons] at hlength
              exact ih (by omega)

theorem strip_append_of_not_continues (left right : List Char) {c : Char}
    (hc : form.continues c = false) :
    form.strip (left ++ c :: right) = form.strip left ++ form.strip (c :: right) :=
  form.stripFrom_append_cons left right hc (Nat.zero_le _)

theorem strip_append_cons (left right : List Char) {c : Char} (hc : form.isPart c = false) :
    form.strip (left ++ c :: right) = form.strip left ++ c :: form.strip right := by
  obtain ⟨hne, hcontinues⟩ := (form.isPart_eq_false_iff c).mp hc
  rw [form.strip_append_of_not_continues left right hcontinues, form.strip_cons_of_ne c right hne]

/-- A sequence at the start is removed as a whole. -/
theorem strip_eq_strip_drop {text : List Char} (hne : form.sequenceLength text ≠ 0) :
    form.strip text = form.strip (text.drop (form.sequenceLength text)) := by
  cases text with
  | nil => exact absurd rfl hne
  | cons c rest =>
      obtain ⟨count, hcount⟩ := Nat.exists_eq_add_one_of_ne_zero hne
      rw [hcount, List.drop_succ_cons, ← form.stripFrom_eq_strip_drop, strip, stripFrom, hcount]

theorem strip_append_of_not_mem {left : List Char} (right : List Char)
    (hfree : escapeChar ∉ left) : form.strip (left ++ right) = left ++ form.strip right := by
  induction left with
  | nil => rfl
  | cons c rest ih =>
      rw [List.mem_cons, not_or] at hfree
      rw [List.cons_append, form.strip_cons_of_ne c _ (Ne.symm hfree.1), ih hfree.2,
        List.cons_append]

theorem strip_of_not_mem {text : List Char} (hfree : escapeChar ∉ text) :
    form.strip text = text := by
  have hstrip := form.strip_append_of_not_mem [] hfree
  simpa using hstrip

/-! ### Texts that stay apart -/

/-- No sequence begins in the first text and ends in the second. -/
def Apart (left right : List Char) : Prop :=
  form.strip (left ++ right) = form.strip left ++ form.strip right

theorem apart_of_not_continues (left right : List Char) {c : Char}
    (hc : form.continues c = false) : form.Apart left (c :: right) :=
  form.strip_append_of_not_continues left right hc

theorem apart_of_not_mem {left : List Char} (right : List Char) (hfree : escapeChar ∉ left) :
    form.Apart left right := by
  rw [Apart, form.strip_append_of_not_mem right hfree, form.strip_of_not_mem hfree]

end Diagnostics.EscapeForm
