import Diagnostics.Failure
import Diagnostics.Proofs.Escape.Painted
import Diagnostics.Proofs.Text.Quoted
import Diagnostics.Value

/-!
# Characters of shown values

The text that stands for a value in a message holds no escape character. Texts are quoted, with
other characters in place of those that are not printable; all other values are shown by numbers and
by fixed words.
-/

namespace Diagnostics

namespace Text

theorem escapeChar_not_mem_decimalNat (n : Nat) : escapeChar ∉ decimalNat n :=
  escapeChar_not_mem_decimal n

theorem escapeChar_not_mem_quotedChars (text : List Char) : escapeChar ∉ quotedChars text :=
  fun hmem => absurd (isPrintable_of_mem_quotedChars hmem) (by decide)

theorem escapeChar_not_mem_quoted (text : String) : escapeChar ∉ (quoted text).toList := by
  rw [quoted, String.toList_ofList]
  exact escapeChar_not_mem_quotedChars text.toList

end Text

theorem escapeChar_not_mem_commaSeparated {parts : List (List Char)}
    (hparts : ∀ part ∈ parts, escapeChar ∉ part) : escapeChar ∉ commaSeparated parts := by
  have hplain : List.Forall₂ Painted parts parts :=
    List.forall₂_same.mpr fun part hpart => .of_not_mem (hparts part hpart)
  exact (Painted.intersperse (by decide) hplain).escapeChar_not_mem

namespace Binary64

theorem escapeChar_not_mem_exponentText (place : Int) : escapeChar ∉ exponentText place := by
  have hdigits := Text.escapeChar_not_mem_decimalNat place.natAbs
  have hzeros := escapeChar_not_mem_replicate (2 - (Text.decimalNat place.natAbs).length)
    (show '0' ≠ escapeChar by decide)
  have hmark : escapeChar ≠ 'e' := by decide
  have hsign : escapeChar ≠ (if place < 0 then '-' else '+') := by split <;> decide
  simp [exponentText, hdigits, hzeros, hmark, hsign]

theorem escapeChar_not_mem_layout {digits : List Char} (hdigits : escapeChar ∉ digits)
    (point : Int) : escapeChar ∉ layout digits point := by
  have hzeros := fun count => escapeChar_not_mem_replicate count
    (show '0' ≠ escapeChar by decide)
  have hpoint : escapeChar ≠ '.' := by decide
  have hzero : escapeChar ≠ '0' := by decide
  have hexponent := escapeChar_not_mem_exponentText (point - 1)
  unfold layout
  split
  · cases digits with
    | nil => exact List.not_mem_nil
    | cons first rest =>
        obtain ⟨hfirst, hrest⟩ := not_or.mp (mt List.mem_cons.mpr hdigits)
        cases rest with
        | nil => exact List.not_mem_cons_of_ne_of_not_mem hfirst hexponent
        | cons second rest =>
            have hfraction := List.not_mem_append hrest hexponent
            simp only [List.cons_append, List.mem_cons, not_or] at hfraction ⊢
            exact ⟨hfirst, hpoint, hfraction⟩
  · split
    · simp [hzero, hpoint, hzeros, hdigits]
    · have hwhole : escapeChar ∉ digits.take point.toNat := fun hmem =>
        hdigits (List.mem_of_mem_take hmem)
      have hfraction : escapeChar ∉ digits.drop point.toNat := fun hmem =>
        hdigits (List.mem_of_mem_drop hmem)
      have hshown : escapeChar ∉
          (if (digits.drop point.toNat).isEmpty then ['0'] else digits.drop point.toNat) := by
        split
        · decide
        · exact hfraction
      simp only [List.mem_append, List.mem_cons, not_or]
      exact ⟨⟨hwhole, hzeros _⟩, hpoint, hshown⟩

theorem escapeChar_not_mem_toText (number : Binary64) : escapeChar ∉ number.toText := by
  cases number with
  | finite negative mantissa exponent =>
      have hsign : escapeChar ∉ (if negative then ['-'] else []) := by
        cases negative <;> decide
      have hmagnitude : escapeChar ∉ magnitudeText mantissa exponent := by
        rw [magnitudeText]
        split
        · decide
        · apply escapeChar_not_mem_layout
          intro hmem
          rw [dropTrailingZeros, List.mem_reverse] at hmem
          exact Text.escapeChar_not_mem_decimalNat _
            (List.mem_reverse.mp ((List.dropWhile_sublist _).subset hmem))
      rw [toText, List.mem_append, not_or]
      exact ⟨hsign, hmagnitude⟩
  | infinite negative => cases negative <;> decide
  | nan => decide

end Binary64

namespace Moment

theorem escapeChar_not_mem_zoneText (offsetMinutes : Int) :
    escapeChar ∉ zoneText offsetMinutes := by
  have hlabelled : ∀ {label : String} (n : Int), escapeChar ∉ label.toList →
      escapeChar ∉ label.toList ++ Text.decimal n := fun n hlabel =>
    List.not_mem_append hlabel (Text.escapeChar_not_mem_decimal n)
  have hoptional : ∀ {p : Prop} [Decidable p] {part : List Char}, escapeChar ∉ part →
      ∀ shown ∈ (if p then [] else [part]), escapeChar ∉ shown := by
    intro p _ part hpart
    split
    · exact List.forall_mem_nil _
    · exact List.forall_mem_singleton.mpr hpart
  rw [zoneText]
  split
  · decide
  · refine List.not_mem_append (List.not_mem_append (by decide) ?_) (by decide)
    apply escapeChar_not_mem_commaSeparated
    rw [List.forall_mem_append]
    exact ⟨hoptional (hlabelled _ (by decide)), hoptional (hlabelled _ (by decide))⟩

theorem escapeChar_not_mem_numbers (numbers : List Nat) :
    ∀ part ∈ numbers.map Text.decimalNat, escapeChar ∉ part :=
  List.forall_mem_map.mpr fun n _ => Text.escapeChar_not_mem_decimalNat n

theorem escapeChar_not_mem_shown (moment : Moment) : escapeChar ∉ moment.shown := by
  have hcall : ∀ {name : String} {parts : List (List Char)}, escapeChar ∉ name.toList →
      (∀ part ∈ parts, escapeChar ∉ part) →
      escapeChar ∉ name.toList ++ commaSeparated parts ++ [')'] := fun hname hparts =>
    List.not_mem_append (List.not_mem_append hname (escapeChar_not_mem_commaSeparated hparts))
      (by decide)
  cases moment with
  | date day => exact hcall (by decide) (escapeChar_not_mem_numbers _)
  | clock time => exact hcall (by decide) (escapeChar_not_mem_numbers _)
  | dateTime day time offset =>
      apply hcall (by decide)
      rw [List.forall_mem_append]
      refine ⟨escapeChar_not_mem_numbers _, List.forall_mem_map.mpr fun minutes _ => ?_⟩
      exact List.not_mem_append (by decide) (escapeChar_not_mem_zoneText minutes)

end Moment

theorem Choice.escapeChar_not_mem_shown (choice : Choice) : escapeChar ∉ choice.shown := by
  cases choice with
  | attach member => cases member <;> decide +kernel
  | charSet member => cases member <;> decide +kernel
  | offsetUnit member => cases member <;> decide +kernel
  | ansiMode member => cases member <;> decide +kernel

namespace Value

mutual

theorem escapeChar_not_mem_shown : ∀ value : Value, escapeChar ∉ value.shown
  | .null => by decide
  | .bool value => by cases value <;> decide
  | .int value => Text.escapeChar_not_mem_decimal value
  | .float value => value.escapeChar_not_mem_toText
  | .text value => Text.escapeChar_not_mem_quotedChars value.toList
  | .moment value => value.escapeChar_not_mem_shown
  | .choice value => value.escapeChar_not_mem_shown
  | .list items => by
      have hparts := escapeChar_not_mem_commaSeparated (escapeChar_not_mem_shownItems items)
      have hbrackets : escapeChar ≠ '[' ∧ escapeChar ≠ ']' := by decide
      simp [shown, hparts, hbrackets]
  | .table entries => by
      have hparts := escapeChar_not_mem_commaSeparated (escapeChar_not_mem_shownEntries entries)
      have hbraces : escapeChar ≠ '\x7b' ∧ escapeChar ≠ '\x7d' := by decide
      simp [shown, hparts, hbraces]

theorem escapeChar_not_mem_shownItems :
    ∀ items : List Value, ∀ part ∈ shownItems items, escapeChar ∉ part
  | [] => List.forall_mem_nil _
  | value :: rest =>
      List.forall_mem_cons.mpr ⟨escapeChar_not_mem_shown value, escapeChar_not_mem_shownItems rest⟩

theorem escapeChar_not_mem_shownEntries :
    ∀ entries : List (Value × Value), ∀ part ∈ shownEntries entries, escapeChar ∉ part
  | [] => List.forall_mem_nil _
  | (key, value) :: rest => by
      have hmark : escapeChar ≠ ':' ∧ escapeChar ≠ ' ' := by decide
      have hkey := escapeChar_not_mem_shown key
      have hvalue := escapeChar_not_mem_shown value
      refine List.forall_mem_cons.mpr ⟨?_, escapeChar_not_mem_shownEntries rest⟩
      simp [hmark, hkey, hvalue]

end

theorem escapeChar_not_mem_toText (value : Value) : escapeChar ∉ value.toText.toList := by
  rw [toText, String.toList_ofList]
  exact value.escapeChar_not_mem_shown

end Value

/-- If the failure comes with a message, it holds no escape character. -/
def Failure.EscapeFree (message : ε → String) : Failure ε → Prop
  | .reported cause => escapeChar ∉ (message cause).toList
  | .abrupt _ => True

theorem Failure.EscapeFree.map {message : ε → String} {other : δ → String} {wrap : ε → δ}
    {failure : Failure ε} (hfree : failure.EscapeFree message)
    (hsame : ∀ cause, other (wrap cause) = message cause) :
    (failure.map wrap).EscapeFree other := by
  cases failure with
  | reported cause =>
      rw [Failure.EscapeFree, ← hsame] at hfree
      exact hfree
  | abrupt fault => trivial

end Diagnostics
