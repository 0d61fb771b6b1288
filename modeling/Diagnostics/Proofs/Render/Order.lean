import Mathlib.Data.List.Sort
import Diagnostics.Render.Basic

/-!
# The order of labels and lines

The labelled lines are listed in ascending order, each once. The labels are sorted by
their order and then by their line; what is left of them on one line is sorted by order
alone, and labels of the same order stay as they were added. This leaves one way only to
sort them.
-/

namespace Diagnostics

/-! ### Lines -/

@[simp]
theorem mem_labelledLines {labels : List DrawnLabel} {line : Nat} :
    line ∈ labelledLines labels ↔ ∃ label ∈ labels, label.line = line := by
  simp [labelledLines]

/-- Equal numbers are neighbours in an ascending list, so what is left of it without
repetitions ascends strictly. -/
theorem pairwise_lt_eraseDups (numbers : List Nat) (hle : numbers.Pairwise (· ≤ ·)) :
    numbers.eraseDups.Pairwise (· < ·) := by
  induction hlength : numbers.length using Nat.strong_induction_on generalizing numbers with
  | _ length ih =>
      cases numbers with
      | nil => simp
      | cons number rest =>
          obtain ⟨hfirst, hrest⟩ := List.pairwise_cons.mp hle
          have hshorter : (rest.filter fun other => !other == number).length < length := by
            have := List.length_filter_le (fun other => !other == number) rest
            simp only [List.length_cons] at hlength
            omega
          rw [List.eraseDups_cons, List.pairwise_cons]
          constructor
          · intro other hother
            have hkept := List.mem_filter.mp (List.mem_eraseDups.mp hother)
            have hne : other ≠ number := by simpa using hkept.2
            exact Nat.lt_of_le_of_ne (hfirst other hkept.1) hne.symm
          · exact ih _ hshorter _ (hrest.filter _) rfl

theorem labelledLines_pairwise (labels : List DrawnLabel) :
    (labelledLines labels).Pairwise (· < ·) := by
  apply pairwise_lt_eraseDups
  have htrans : ∀ a b c : Nat, decide (a ≤ b) → decide (b ≤ c) → decide (a ≤ c) := by
    simp only [decide_eq_true_eq]
    omega
  have htotal : ∀ a b : Nat, decide (a ≤ b) || decide (b ≤ a) := by
    simp only [Bool.or_eq_true, decide_eq_true_eq]
    omega
  simpa using List.pairwise_mergeSort htrans htotal (labels.map DrawnLabel.line)

/-- An ascending list of just the lines of the labels is the list of labelled lines. -/
theorem labelledLines_eq {labels : List DrawnLabel} {lines : List Nat}
    (hascending : lines.Pairwise (· < ·))
    (hmem : ∀ line, line ∈ lines ↔ ∃ label ∈ labels, label.line = line) :
    labelledLines labels = lines := by
  apply (labelledLines_pairwise labels).eq_of_mem_iff hascending
  intro line
  rw [mem_labelledLines, hmem]

/-! ### Labels -/

/-- Whether a label may stand before another one. -/
def DrawnLabel.mayPrecede (a b : DrawnLabel) : Bool :=
  a.order < b.order || (a.order = b.order && a.line ≤ b.line)

theorem DrawnLabel.mayPrecede_iff (a b : DrawnLabel) :
    a.mayPrecede b ↔ a.order < b.order ∨ a.order = b.order ∧ a.line ≤ b.line := by
  simp [mayPrecede]

theorem DrawnLabel.mayPrecede_trans (a b c : DrawnLabel) (hab : a.mayPrecede b)
    (hbc : b.mayPrecede c) : a.mayPrecede c := by
  rw [mayPrecede_iff] at *
  omega

theorem DrawnLabel.mayPrecede_total (a b : DrawnLabel) : a.mayPrecede b || b.mayPrecede a := by
  rw [Bool.or_eq_true, mayPrecede_iff, mayPrecede_iff]
  omega

theorem orderedLabels_eq_mergeSort (labels : List DrawnLabel) :
    orderedLabels labels = labels.mergeSort DrawnLabel.mayPrecede := rfl

theorem orderedLabels_perm (labels : List DrawnLabel) : (orderedLabels labels).Perm labels :=
  List.mergeSort_perm labels _

/-- Changing labels without changing which of them may stand before which keeps their
order. -/
theorem orderedLabels_map {f : DrawnLabel → DrawnLabel}
    (hprecede : ∀ a b, (f a).mayPrecede (f b) = a.mayPrecede b) (labels : List DrawnLabel) :
    orderedLabels (labels.map f) = (orderedLabels labels).map f := by
  rw [orderedLabels_eq_mergeSort, orderedLabels_eq_mergeSort]
  symm
  apply List.map_mergeSort
  intro a _ b _
  exact (hprecede a b).symm

theorem labelledLines_orderedLabels (labels : List DrawnLabel) :
    labelledLines (orderedLabels labels) = labelledLines labels := by
  apply labelledLines_eq (labelledLines_pairwise labels)
  intro line
  rw [mem_labelledLines]
  simp only [(orderedLabels_perm labels).mem_iff]

/-- `sorted` holds `items` by ascending key, and items of one key as they stand in
`items`. -/
structure StablySorted (key : α → Int) (items sorted : List α) : Prop where
  perm : sorted.Perm items
  ascending : sorted.Pairwise fun a b => key a ≤ key b
  stable : ∀ value, (sorted.filter fun item => key item = value) =
    items.filter fun item => key item = value

section Ascending

variable {key : α → Int} {left right : List α}

theorem mem_iff_of_filter_eq (hfilter : ∀ value, (left.filter fun item => key item = value) =
    right.filter fun item => key item = value) (item : α) : item ∈ left ↔ item ∈ right := by
  have hkey := congrArg (item ∈ ·) (hfilter (key item))
  simpa using hkey

theorem key_le_of_pairwise_cons {first : α}
    (hascending : (first :: left).Pairwise fun a b => key a ≤ key b) :
    ∀ item ∈ first :: left, key first ≤ key item :=
  List.forall_mem_cons.mpr ⟨Int.le_refl _, (List.pairwise_cons.mp hascending).1⟩

theorem filter_eq_of_cons {first : α} (hfilter : ∀ value,
    ((first :: left).filter fun item => key item = value) =
      (first :: right).filter fun item => key item = value) (value : Int) :
    (left.filter fun item => key item = value) = right.filter fun item => key item = value := by
  have hvalue := hfilter value
  rw [List.filter_cons, List.filter_cons] at hvalue
  split at hvalue
  · exact (List.cons.inj hvalue).2
  · exact hvalue

/-- An ascending list is known once its items of each key are. -/
theorem eq_of_filter_eq (hleft : left.Pairwise fun a b => key a ≤ key b)
    (hright : right.Pairwise fun a b => key a ≤ key b)
    (hfilter : ∀ value, (left.filter fun item => key item = value) =
      right.filter fun item => key item = value) : left = right := by
  induction left generalizing right with
  | nil =>
      symm
      rw [List.eq_nil_iff_forall_not_mem]
      exact fun b hb => List.not_mem_nil ((mem_iff_of_filter_eq hfilter b).mpr hb)
  | cons a left ih =>
      have hmem := mem_iff_of_filter_eq hfilter
      cases right with
      | nil => exact absurd ((hmem a).mp List.mem_cons_self) List.not_mem_nil
      | cons b right =>
          -- Both heads have the least key, and are the first item that has it.
          have hkey : key b = key a := Int.le_antisymm
            (key_le_of_pairwise_cons hright a ((hmem a).mp List.mem_cons_self))
            (key_le_of_pairwise_cons hleft b ((hmem b).mpr List.mem_cons_self))
          have hfirst := hfilter (key a)
          rw [List.filter_cons_of_pos (by simp), List.filter_cons_of_pos (by simp [hkey])] at hfirst
          obtain ⟨rfl, -⟩ := List.cons.inj hfirst
          rw [ih hleft.of_cons hright.of_cons (filter_eq_of_cons hfilter)]

end Ascending

/-- Items can be sorted stably in one way only. -/
theorem StablySorted.unique {key : α → Int} {items others sorted resorted : List α}
    (hsorted : StablySorted key items sorted) (hresorted : StablySorted key others resorted)
    (hitems : ∀ value, (items.filter fun item => key item = value) =
      others.filter fun item => key item = value) : sorted = resorted := by
  apply eq_of_filter_eq hsorted.ascending hresorted.ascending
  intro value
  rw [hsorted.stable, hresorted.stable, hitems]

/-- Labels that may stand in the order in which they are keep it. -/
theorem filter_orderedLabels (labels : List DrawnLabel) (keep : DrawnLabel → Bool)
    (hpairwise : (labels.filter keep).Pairwise fun a b => a.mayPrecede b) :
    (orderedLabels labels).filter keep = labels.filter keep := by
  have hsublist : (labels.filter keep).Sublist (orderedLabels labels) :=
    List.sublist_mergeSort DrawnLabel.mayPrecede_trans DrawnLabel.mayPrecede_total hpairwise
      List.filter_sublist
  have hkept := hsublist.filter keep
  rw [List.filter_filter] at hkept
  simp only [Bool.and_self] at hkept
  exact (hkept.eq_of_length ((orderedLabels_perm labels).filter keep).length_eq.symm).symm

/-- The sorted labels of one line are its labels by ascending order. -/
theorem stablySorted_labelsOn (labels : List DrawnLabel) (line : Nat) :
    StablySorted DrawnLabel.order (labels.filter (·.line = line))
      ((orderedLabels labels).filter (·.line = line)) where
  perm := (orderedLabels_perm labels).filter _
  ascending := by
    have hsorted : (orderedLabels labels).Pairwise fun a b => a.mayPrecede b :=
      List.pairwise_mergeSort DrawnLabel.mayPrecede_trans DrawnLabel.mayPrecede_total labels
    apply (hsorted.filter _).imp
    intro a b hab
    rw [DrawnLabel.mayPrecede_iff] at hab
    omega
  stable value := by
    rw [List.filter_filter, List.filter_filter]
    apply filter_orderedLabels
    apply List.pairwise_of_forall_mem_list
    intro a ha b hb
    simp only [List.mem_filter, Bool.and_eq_true, decide_eq_true_eq] at ha hb
    rw [DrawnLabel.mayPrecede_iff]
    omega

end Diagnostics
