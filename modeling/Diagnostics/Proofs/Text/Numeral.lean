import Mathlib.Data.List.TakeWhile
import Diagnostics.Proofs.Text.Decimal

/-!
# Reading digits

A text of decimal digits is read as the number that the digits stand for, in whatever
script they are written and however many zeros stand in front, unless there are too many
digits.
-/

namespace Diagnostics.Text

/-- The text consists of decimal digits that stand for the number. -/
structure IsNumeral (digits : List Char) (n : Nat) : Prop where
  ne_nil : digits ≠ []
  values : ∃ values : List Nat, digits.map digitValue? = values.map some ∧
    values.foldl (fun read value => 10 * read + value) 0 = n

theorem bounds_of_digitValue? {c : Char} {value : Nat} (hc : digitValue? c = some value) :
    ∃ first ∈ zeroDigits, first ≤ c.toNat ∧ c.toNat < first + 10 := by
  obtain ⟨first, hfind, -⟩ := Option.map_eq_some_iff.mp hc
  have hrow := List.find?_some hfind
  simp only [Bool.and_eq_true, decide_eq_true_eq] at hrow
  exact ⟨first, List.mem_of_find?_eq_some hfind, hrow⟩

theorem isNumeralBlank_of_digitValue? {c : Char} {value : Nat}
    (hc : digitValue? c = some value) : isNumeralBlank c = false := by
  have hapart : ∀ first ∈ zeroDigits, ∀ range ∈ blankRanges,
      first + 10 ≤ range.1 ∨ range.2 < first := by decide +kernel
  obtain ⟨first, hfirst, hle, hlt⟩ := bounds_of_digitValue? hc
  have hblank : isBlank c = false := by
    rw [isBlank, Ranges.contains, List.any_eq_false]
    intro range hrange
    have hrow := hapart first hfirst range hrange
    simp only [Bool.and_eq_true, decide_eq_true_eq]
    omega
  rw [isNumeralBlank, hblank, Bool.false_and]

theorem ne_of_digitValue? {c other : Char} {value : Nat} (hc : digitValue? c = some value)
    (hother : digitValue? other = none) : c ≠ other := by
  rintro rfl
  rw [hother] at hc
  cases hc

theorem exists_digitValue?_of_mem {digits : List Char} {values : List Nat}
    (hvalues : digits.map digitValue? = values.map some) {c : Char} (hc : c ∈ digits) :
    ∃ value, digitValue? c = some value := by
  have hmem : digitValue? c ∈ values.map some := by
    rw [← hvalues]
    exact List.mem_map_of_mem hc
  obtain ⟨value, -, hvalue⟩ := List.mem_map.mp hmem
  exact ⟨value, hvalue.symm⟩

theorem readDigits_of_values {digits : List Char} {values : List Nat}
    (hvalues : digits.map digitValue? = values.map some) (read : Nat) :
    readDigits read digits = some (values.foldl (fun read value => 10 * read + value) read) := by
  induction digits generalizing values read with
  | nil =>
      obtain rfl : values = [] := List.map_eq_nil_iff.mp hvalues.symm
      rfl
  | cons c rest ih =>
      cases values with
      | nil => cases hvalues
      | cons value values =>
          obtain ⟨hc, hrest⟩ := List.cons.inj hvalues
          have hseparator : c ≠ '_' := ne_of_digitValue? hc (by decide)
          rw [readDigits]
          · simp only [hc, Option.bind_eq_bind, Option.bind_some, ih hrest, List.foldl_cons]
          · exact fun _ _ heq _ => hseparator heq

theorem trimNumeral_of_values {digits : List Char} {values : List Nat}
    (hvalues : digits.map digitValue? = values.map some) : trimNumeral digits = digits := by
  have hnone : ∀ c ∈ digits, isNumeralBlank c = false := by
    intro c hc
    obtain ⟨value, hvalue⟩ := exists_digitValue?_of_mem hvalues hc
    exact isNumeralBlank_of_digitValue? hvalue
  have hkeep : ∀ cs : List Char, (∀ c ∈ cs, isNumeralBlank c = false) →
      cs.dropWhile isNumeralBlank = cs := by
    intro cs hcs
    cases cs with
    | nil => rfl
    | cons c rest =>
        exact List.dropWhile_cons_of_neg (by simp [hcs c List.mem_cons_self])
  rw [trimNumeral, hkeep digits hnone,
    hkeep digits.reverse fun c hc => hnone c (List.mem_reverse.mp hc), List.reverse_reverse]

theorem readInt?_of_isNumeral {digits : List Char} {n : Nat} (hdigits : IsNumeral digits n) :
    readInt? digits = some (n : Int) := by
  obtain ⟨hne, values, hvalues, hn⟩ := hdigits
  obtain ⟨c, rest, rfl⟩ := List.exists_cons_of_ne_nil hne
  cases values with
  | nil => cases hvalues
  | cons value values =>
      obtain ⟨hc, hrest⟩ := List.cons.inj hvalues
      have hnat : readNat? (c :: rest) = some n := by
        rw [readNat?, hc]
        simp only [Option.bind_eq_bind, Option.bind_some, readDigits_of_values hrest]
        rw [List.foldl_cons, Nat.mul_zero, Nat.zero_add] at hn
        rw [hn]
      have hminus : c ≠ '-' := ne_of_digitValue? hc (by decide)
      have hplus : c ≠ '+' := ne_of_digitValue? hc (by decide)
      rw [readInt?, trimNumeral_of_values hvalues, readSigned?, hnat]
      · rfl
      · exact fun _ heq => hminus (List.cons.inj heq).1
      · exact fun _ heq => hplus (List.cons.inj heq).1

theorem isDigit_of_isNumeral {digits : List Char} {n : Nat} (hdigits : IsNumeral digits n) :
    digits.all isDigit := by
  obtain ⟨-, values, hvalues, -⟩ := hdigits
  rw [List.all_eq_true]
  intro c hc
  obtain ⟨value, hvalue⟩ := exists_digitValue?_of_mem hvalues hc
  rw [isDigit, hvalue]
  rfl

/-- In ASCII there are no other digits than the ten of decimal text. -/
theorem isDigit_of_ascii {c : Char} (hascii : c.toNat < 128) (hdigit : isDigit c) :
    c.isDigit := by
  have hothers : ∀ first ∈ zeroDigits, first ≠ 48 → 128 ≤ first := by decide
  have hranges : ∀ range ∈ otherDigitRanges, 128 ≤ range.1 := by decide
  have hrange : otherDigitRanges.contains c = false := by
    rw [Ranges.contains, List.any_eq_false]
    intro range hmem
    have hfirst := hranges range hmem
    simp only [Bool.and_eq_true, decide_eq_true_eq]
    omega
  rw [isDigit, hrange, Bool.or_false, Option.isSome_iff_exists] at hdigit
  obtain ⟨value, hvalue⟩ := hdigit
  obtain ⟨first, hfirst, hle, hlt⟩ := bounds_of_digitValue? hvalue
  have hzero : first = 48 := by
    rcases Nat.decEq first 48 with hother | heq
    · have hfar := hothers first hfirst hother
      omega
    · exact heq
  subst hzero
  rw [Char.isDigit, Bool.and_eq_true, decide_eq_true_eq, decide_eq_true_eq]
  exact ⟨hle, Nat.le_of_lt_succ hlt⟩

/-! ### Numerals with too many digits -/

theorem digitRun_of_values {digits : List Char} {values : List Nat}
    (hvalues : digits.map digitValue? = values.map some) : digitRun digits = digits := by
  have hsign : dropSign digits = digits := by
    unfold dropSign
    split
    case h_3 => rfl
    all_goals
      obtain ⟨value, hvalue⟩ := exists_digitValue?_of_mem hvalues List.mem_cons_self
      exact absurd rfl (ne_of_digitValue? hvalue (by decide))
  rw [digitRun, trimNumeral_of_values hvalues, hsign, List.takeWhile_eq_self_iff]
  intro c hc
  obtain ⟨value, hvalue⟩ := exists_digitValue?_of_mem hvalues hc
  rw [hvalue, Option.isSome_some, Bool.or_true]

theorem isSeparated_of_forall_ne {cs : List Char} (hplain : ∀ c ∈ cs, c ≠ '_')
    (afterDigit : Bool) : isSeparated afterDigit cs = (afterDigit || !cs.isEmpty) := by
  induction cs generalizing afterDigit with
  | nil => simp [isSeparated]
  | cons c rest ih =>
      obtain ⟨hc, hrest⟩ := List.forall_mem_cons.mp hplain
      simp [isSeparated, hc, ih hrest]

variable [Platform]

theorem overlongCount?_of_isNumeral {digits : List Char} {n : Nat} (hdigits : IsNumeral digits n) :
    overlongCount? digits =
      if Platform.digitLimit < digits.length then some digits.length else none := by
  obtain ⟨hne, values, hvalues, -⟩ := hdigits
  have hplain : ∀ c ∈ digits, c ≠ '_' := by
    intro c hc
    obtain ⟨value, hvalue⟩ := exists_digitValue?_of_mem hvalues hc
    exact ne_of_digitValue? hvalue (by decide)
  have hcount : (digits.countP fun c => c ≠ '_') = digits.length :=
    List.countP_eq_length.mpr fun c hc => decide_eq_true (hplain c hc)
  have hseparated : isSeparated false digits = true := by
    rw [isSeparated_of_forall_ne hplain, List.isEmpty_eq_false_iff.mpr hne]
    rfl
  rw [overlongCount?, digitRun_of_values hvalues, hcount, hseparated, Bool.true_and]
  simp only [decide_eq_true_eq]

/-- A numeral is read unless it has too many digits. -/
theorem readInteger_of_isNumeral {digits : List Char} {n : Nat} (hdigits : IsNumeral digits n) :
    readInteger digits =
      if Platform.digitLimit < digits.length then .error (.overlong digits.length)
      else .ok (n : Int) := by
  rw [readInteger, overlongCount?_of_isNumeral hdigits, readInt?_of_isNumeral hdigits]
  by_cases hlong : Platform.digitLimit < digits.length
  · rw [if_pos hlong, if_pos hlong]
  · rw [if_neg hlong, if_neg hlong]

end Diagnostics.Text
