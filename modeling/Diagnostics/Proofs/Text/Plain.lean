import Diagnostics.Proofs.Text.Decimal
import Diagnostics.Proofs.Text.LowerCase
import Diagnostics.Value

/-!
# Plain text of values

The text that a value has by itself, where texts stand as they are and dates and times in the
usual form with the largest unit first. In lower case it is taken for a name only if the value is
a text: the plain texts of all other values are among a few words or hold a character that is no
letter.
-/

namespace Diagnostics

/-- Decimal text with at least `width` digits. -/
def Text.padded (width n : Nat) : List Char :=
  List.replicate (width - (decimalNat n).length) '0' ++ decimalNat n

def Date.plain (date : Date) : List Char :=
  Text.padded 4 date.year ++ '-' :: Text.padded 2 date.month ++ '-' :: Text.padded 2 date.day

def Clock.plain (clock : Clock) : List Char :=
  Text.padded 2 clock.hour ++ ':' :: Text.padded 2 clock.minute ++
    ':' :: Text.padded 2 clock.second ++
    (if clock.microsecond = 0 then [] else '.' :: Text.padded 6 clock.microsecond)

namespace Moment

/-- The offset in hours and minutes. -/
def plainZone (offsetMinutes : Int) : List Char :=
  (if offsetMinutes < 0 then '-' else '+') ::
    (Text.padded 2 (offsetMinutes.natAbs / 60) ++
      ':' :: Text.padded 2 (offsetMinutes.natAbs % 60))

def plain : Moment → List Char
  | date day => day.plain
  | clock time => time.plain
  | dateTime day time offset =>
      day.plain ++ ' ' :: time.plain ++ (offset.map plainZone).getD []

end Moment

/-- The set and the name in capitals. -/
def Choice.plain (choice : Choice) : List Char :=
  (choice.setName ++ "." ++ choice.name.toUpper).toList

def Value.plain : Value → String
  | .text value => value
  | .moment value => String.ofList value.plain
  | .choice value => String.ofList value.plain
  | value => value.toText

namespace Text

/-- The text consists of small letters of ASCII. -/
def IsWord (text : String) : Prop :=
  text ≠ "" ∧ text.toList.all Char.isLower

instance (text : String) : Decidable (IsWord text) :=
  inferInstanceAs (Decidable (_ ∧ _))

/-- A character of ASCII that is no letter. -/
def IsMark (c : Char) : Prop :=
  c.toNat < 128 ∧ c.isAlpha = false

instance (c : Char) : Decidable (IsMark c) :=
  inferInstanceAs (Decidable (_ ∧ _))

theorem isMark_of_isDigit {c : Char} (hc : c.isDigit) : IsMark c := by
  have hall : ∀ n < 58, IsMark (Char.ofNat n) := by decide
  rw [Char.isDigit, Bool.and_eq_true, decide_eq_true_eq, decide_eq_true_eq] at hc
  have hle : c.toNat ≤ 57 := hc.2
  have hmark := hall c.toNat (by omega)
  rwa [Char.ofNat_toNat] at hmark

theorem IsMark.toLower_eq {c : Char} (hc : IsMark c) : c.toLower = c := by
  refine dif_neg fun hcapital => ?_
  have hupper : c.isUpper := decide_eq_true hcapital
  have hletter : (c.isUpper || c.isLower) = false := hc.2
  rw [hupper, Bool.true_or] at hletter
  cases hletter

/-- In lower case the characters that are no letters stay. -/
theorem mem_lowerFrom_of_isMark (before : List Char) {cs : List Char} {c : Char} (hc : IsMark c)
    (hmem : c ∈ cs) : c ∈ lowerFrom before cs := by
  induction cs generalizing before with
  | nil => cases hmem
  | cons first rest ih =>
      rw [lowerFrom, List.mem_append]
      obtain rfl | hlater := List.mem_cons.mp hmem
      · left
        have hsigma : c ≠ 'Σ' := by
          rintro rfl
          exact absurd hc (by decide)
        have hdotted : c ≠ 'İ' := by
          rintro rfl
          exact absurd hc (by decide)
        rw [if_neg hsigma, if_neg hdotted, lowerChar_of_ascii hc.1, hc.toLower_eq]
        exact List.mem_singleton_self c
      · exact .inr (ih _ hlater)

/-- The text has a character that is no letter, unless it is empty. -/
def Marked (cs : List Char) : Prop :=
  cs = [] ∨ ∃ c ∈ cs, IsMark c

theorem Marked.of_mem {cs : List Char} {c : Char} (hc : IsMark c) (hmem : c ∈ cs) : Marked cs :=
  .inr ⟨c, hmem, hc⟩

theorem not_isWord_lower {cs : List Char} (hmarked : Marked cs) :
    ¬IsWord (lower (String.ofList cs)) := by
  rintro ⟨hne, hletters⟩
  obtain rfl | ⟨c, hmem, hc⟩ := hmarked
  · exact hne rfl
  · have hlower : c ∈ (lower (String.ofList cs)).toList := by
      rw [lower, String.toList_ofList, String.toList_ofList]
      exact mem_lowerFrom_of_isMark [] hc hmem
    have hletter : (c.isUpper || c.isLower) = false := hc.2
    rw [List.all_eq_true.mp hletters c hlower, Bool.or_true] at hletter
    cases hletter

theorem marked_decimal (n : Int) : Marked (decimal n) := by
  have hdigits : ∀ n : Nat, Marked (decimalNat n) := by
    intro n
    obtain ⟨c, hc⟩ := List.exists_mem_of_ne_nil _ (Nat.toDigits_ne_nil : decimalNat n ≠ [])
    exact .of_mem (isMark_of_isDigit (isDigit_of_mem_decimalNat hc)) hc
  cases n with
  | ofNat n => exact hdigits n
  | negSucc n => exact .of_mem (by decide) List.mem_cons_self

end Text

open Text

namespace Binary64

theorem marked_layout (digits : List Char) (point : Int) : Marked (layout digits point) := by
  have hsign : ∀ place : Int, IsMark (if place < 0 then '-' else '+') := by
    intro place
    split <;> decide
  have hpoint : IsMark '.' := by decide
  unfold layout
  split
  · match digits with
    | [] => exact .inl rfl
    | [first] => exact .of_mem (hsign (point - 1)) (by simp [exponentText])
    | first :: second :: rest => exact .of_mem hpoint (by simp)
  · split
    · exact .of_mem hpoint (by simp)
    · exact .of_mem hpoint (by simp)

/-- A double is written with a sign, a point or an exponent, or as one of two words. -/
theorem lower_toText (number : Binary64) :
    lower (String.ofList number.toText) ∈ ["nan", "inf"] ∨
      ¬IsWord (lower (String.ofList number.toText)) := by
  cases number with
  | finite negative mantissa exponent =>
      right
      apply not_isWord_lower
      cases negative with
      | true => exact .of_mem (show IsMark '-' by decide) List.mem_cons_self
      | false =>
          rw [toText, if_neg Bool.false_ne_true, List.nil_append, magnitudeText]
          split
          · exact .of_mem (show IsMark '.' by decide) (by decide)
          · exact marked_layout _ _
  | infinite negative => cases negative <;> decide
  | nan => decide

end Binary64

theorem Moment.marked_plain (moment : Moment) : Marked moment.plain := by
  cases moment with
  | date day => exact .of_mem (show IsMark '-' by decide) (by simp [plain, Date.plain])
  | clock time => exact .of_mem (show IsMark ':' by decide) (by simp [plain, Clock.plain])
  | dateTime day time offset =>
      exact .of_mem (show IsMark ' ' by decide) (by simp [plain])

theorem Choice.marked_plain (choice : Choice) : Marked choice.plain := by
  have hpoint : IsMark '.' := by decide
  refine .of_mem hpoint ?_
  rw [plain, String.toList_append, String.toList_append]
  exact List.mem_append_left _ (List.mem_append_right _ List.mem_cons_self)

/-- The words that values other than texts are written with. -/
def valueWords : List String :=
  ["none", "true", "false", "nan", "inf"]

/-- Only texts have other words for their plain texts. -/
theorem Value.lower_plain {value : Value} (hvalue : ∀ text, value ≠ .text text) :
    lower value.plain ∈ valueWords ∨ ¬IsWord (lower value.plain) := by
  cases value with
  | null => decide
  | bool flag => cases flag <;> decide
  | int n => exact .inr (not_isWord_lower (marked_decimal n))
  | float number =>
      refine number.lower_toText.imp_left fun hmem => ?_
      exact List.mem_of_mem_drop (i := 3) hmem
  | text text => exact absurd rfl (hvalue text)
  | moment moment => exact .inr (not_isWord_lower moment.marked_plain)
  | choice choice => exact .inr (not_isWord_lower choice.marked_plain)
  | list items =>
      exact .inr (not_isWord_lower (.of_mem (show IsMark '[' by decide) List.mem_cons_self))
  | table entries =>
      exact .inr (not_isWord_lower (.of_mem (show IsMark '\x7b' by decide) List.mem_cons_self))

end Diagnostics
