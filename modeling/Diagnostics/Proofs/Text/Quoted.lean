import Mathlib.Data.Nat.Digits.Defs
import Mathlib.Data.List.Basic
import Mathlib.Tactic.SplitIfs
import Diagnostics.Proofs.Text.Decimal
import Diagnostics.Proofs.Text.Utf8
import Diagnostics.Text.Quoted

/-!
# Reading quoted texts back

A quoted text holds printable characters only, so that nothing in it ends a row or steers a
terminal. What stands for one character in it can be read back, whatever follows, and the quote
around it is the same at both ends. Two texts that are quoted alike are therefore the same.
-/

namespace Diagnostics

/-- Items are told apart one by one, from the front, by what stands for each of them. -/
theorem eq_of_flatMap_eq {code : α → List β} (hne : ∀ item, code item ≠ [])
    {items others : List α}
    (hcode : ∀ item ∈ items, ∀ other ∈ others, ∀ left right,
      code item ++ left = code other ++ right → item = other ∧ left = right)
    (hsame : items.flatMap code = others.flatMap code) : items = others := by
  induction items generalizing others with
  | nil =>
      cases others with
      | nil => rfl
      | cons other others =>
          rw [List.flatMap_nil, List.flatMap_cons] at hsame
          exact absurd (List.append_eq_nil_iff.mp hsame.symm).1 (hne other)
  | cons item items ih =>
      cases others with
      | nil =>
          rw [List.flatMap_nil, List.flatMap_cons] at hsame
          exact absurd (List.append_eq_nil_iff.mp hsame).1 (hne item)
      | cons other others =>
          obtain ⟨rfl, hrest⟩ :=
            hcode item List.mem_cons_self other List.mem_cons_self _ _ hsame
          rw [ih (fun left hleft right hright =>
            hcode left (.tail _ hleft) right (.tail _ hright)) hrest]

namespace Text

/-! ### Hexadecimal text -/

/-- The value of a digit from `0` to `f`. -/
def hexadecimalValue (c : Char) : Nat :=
  if c.isDigit then c.toNat - '0'.toNat else c.toNat - 'a'.toNat + 10

def readHexadecimal (digits : List Char) : Nat :=
  digits.foldl (fun read c => 16 * read + hexadecimalValue c) 0

theorem readHexadecimal_toDigits (n : Nat) : readHexadecimal (Nat.toDigits 16 n) = n := by
  have hdigit : ∀ digit < 16, hexadecimalValue digit.digitChar = digit := by decide
  induction n using Nat.strongRecOn with
  | ind n ih =>
      rw [Nat.toDigits_eq_if (by decide)]
      split
      case isTrue hlt => simp [readHexadecimal, hdigit n hlt]
      case isFalse hge =>
        have hfront : readHexadecimal (Nat.toDigits 16 (n / 16)) = n / 16 := ih _ (by omega)
        rw [readHexadecimal] at hfront
        simp only [readHexadecimal, List.foldl_append, hfront, List.foldl_cons, List.foldl_nil,
          hdigit _ (Nat.mod_lt n (by decide))]
        omega

/-- Zeros in front do not change the number. -/
theorem readHexadecimal_hexadecimal (width n : Nat) :
    readHexadecimal (hexadecimal width n) = n := by
  have hzeros : ∀ count, (List.replicate count '0').foldl
      (fun read c => 16 * read + hexadecimalValue c) 0 = 0 := by
    intro count
    induction count with
    | zero => rfl
    | succ count ih => exact ih
  have hdigits := readHexadecimal_toDigits n
  rw [readHexadecimal] at hdigits ⊢
  rw [hexadecimal, List.foldl_append, hzeros, hdigits]

theorem length_hexadecimal {width n : Nat} (hpos : 0 < width) (hfits : n < 16 ^ width) :
    (hexadecimal width n).length = width := by
  have hle := (Nat.length_toDigits_le_iff (by decide) hpos).mpr hfits
  rw [hexadecimal, List.length_append, List.length_replicate, Nat.sub_add_cancel hle]

theorem allTypewritten_hexadecimal (width n : Nat) : AllTypewritten (hexadecimal width n) := by
  have hdigit : ∀ digit < 16, IsTypewritten digit.digitChar := by decide
  have hdigits : AllTypewritten (Nat.toDigits 16 n) := by
    induction n using Nat.strongRecOn with
    | ind n ih =>
        rw [Nat.toDigits_eq_if (by decide)]
        split
        case isTrue hlt => exact List.forall_mem_singleton.mpr (hdigit n hlt)
        case isFalse hge =>
          exact List.forall_mem_append.mpr ⟨ih _ (by omega),
            List.forall_mem_singleton.mpr (hdigit _ (Nat.mod_lt n (by decide)))⟩
  refine List.forall_mem_append.mpr ⟨fun c hzero => ?_, hdigits⟩
  rw [List.eq_of_mem_replicate hzero]
  decide

/-! ### Printable characters -/

theorem IsTypewritten.isPrintable {c : Char} (hc : IsTypewritten c) : isPrintable c := by
  have hapart : ∀ range ∈ unprintableRanges, range.2 < 0x20 ∨ 0x7F ≤ range.1 := by decide +kernel
  obtain ⟨hlower, hupper⟩ := hc
  rw [Text.isPrintable, Bool.not_eq_true', Ranges.contains, List.any_eq_false]
  intro range hrange
  have hrow := hapart range hrange
  simp only [Bool.and_eq_true, decide_eq_true_eq]
  omega

variable {quote : Char}

theorem AllTypewritten.isPrintable {text : List Char} (htext : AllTypewritten text) :
    ∀ c ∈ text, Text.isPrintable c := fun c hc => (htext c hc).isPrintable

theorem isPrintable_of_mem_escaped (hquote : IsTypewritten quote) (c : Char) :
    ∀ shown ∈ escaped quote c, isPrintable shown := by
  have hcode : ∀ (kind : Char) (width : Nat), IsTypewritten kind →
      AllTypewritten ('\x5c' :: kind :: hexadecimal width c.toNat) := fun kind width hkind =>
    List.forall_mem_cons.mpr
      ⟨by decide, List.forall_mem_cons.mpr ⟨hkind, allTypewritten_hexadecimal width c.toNat⟩⟩
  rw [escaped]
  split_ifs with hspecial hfeed hreturn htab hprintable hsmall hmiddle
  · have hc : IsTypewritten c := by
      obtain rfl | rfl : c = quote ∨ c = '\x5c' := by simpa using hspecial
      · exact hquote
      · decide
    exact AllTypewritten.isPrintable
      (List.forall_mem_cons.mpr ⟨by decide, List.forall_mem_singleton.mpr hc⟩)
  · exact AllTypewritten.isPrintable (by decide)
  · exact AllTypewritten.isPrintable (by decide)
  · exact AllTypewritten.isPrintable (by decide)
  · exact List.forall_mem_singleton.mpr hprintable
  · exact (hcode 'x' 2 (by decide)).isPrintable
  · exact (hcode 'u' 4 (by decide)).isPrintable
  · exact (hcode 'U' 8 (by decide)).isPrintable

theorem quoteOf_cases (text : List Char) : quoteOf text = '\x22' ∨ quoteOf text = '\x27' := by
  rw [quoteOf]
  split
  · exact .inl rfl
  · exact .inr rfl

theorem isPrintable_of_mem_quotedChars {text : List Char} {c : Char}
    (hc : c ∈ quotedChars text) : isPrintable c := by
  have hquote : IsTypewritten (quoteOf text) := by
    obtain heq | heq := quoteOf_cases text <;> rw [heq] <;> decide
  rw [quotedChars, List.cons_append, List.mem_cons, List.mem_append, List.mem_singleton,
    List.mem_flatMap] at hc
  obtain rfl | ⟨given, -, hshown⟩ | rfl := hc
  · exact hquote.isPrintable
  · exact isPrintable_of_mem_escaped hquote given c hshown
  · exact hquote.isPrintable

/-! ### Reading back -/

/-- The character with the code that the first digits say, and what stands behind them. -/
def readCode (width : Nat) (text : List Char) : Char × List Char :=
  (Char.ofNat (readHexadecimal (text.take width)), text.drop width)

/-- Reads what stands behind a backslash. -/
def readEscape? : List Char → Option (Char × List Char)
  | [] => none
  | 'n' :: rest => some ('\n', rest)
  | 'r' :: rest => some ('\r', rest)
  | 't' :: rest => some ('\t', rest)
  | 'x' :: rest => some (readCode 2 rest)
  | 'u' :: rest => some (readCode 4 rest)
  | 'U' :: rest => some (readCode 8 rest)
  | c :: rest => some (c, rest)

/-- The first character of a text between quotes, and what stands behind it. -/
def unescape? : List Char → Option (Char × List Char)
  | [] => none
  | c :: rest => if c = '\x5c' then readEscape? rest else some (c, rest)

theorem readCode_hexadecimal {width : Nat} {c : Char} (rest : List Char) (hpos : 0 < width)
    (hfits : c.toNat < 16 ^ width) :
    readCode width (hexadecimal width c.toNat ++ rest) = (c, rest) := by
  have hlength := length_hexadecimal hpos hfits
  rw [readCode, List.take_left' hlength, List.drop_left' hlength, readHexadecimal_hexadecimal,
    Char.ofNat_toNat]

theorem unescape?_escaped (hquote : quote = '\x22' ∨ quote = '\x27') (c : Char)
    (rest : List Char) : unescape? (escaped quote c ++ rest) = some (c, rest) := by
  have hlast : c.toNat < 16 ^ 8 := Nat.lt_trans (Utf8.toNat_lt c) (by decide)
  rw [escaped]
  split_ifs with hspecial hfeed hreturn htab hprintable hsmall hmiddle
  · obtain rfl | rfl : c = quote ∨ c = '\x5c' := by simpa using hspecial
    · obtain rfl | rfl := hquote <;> rfl
    · rfl
  · rw [hfeed]
    rfl
  · rw [hreturn]
    rfl
  · rw [htab]
    rfl
  · have hne : c ≠ '\x5c' := by
      rintro rfl
      simp at hspecial
    exact if_neg hne
  · exact congrArg some (readCode_hexadecimal rest (by decide) hsmall)
  · exact congrArg some (readCode_hexadecimal rest (by decide) hmiddle)
  · exact congrArg some (readCode_hexadecimal rest (by decide) hlast)

theorem quotedChars_injective : Function.Injective quotedChars := by
  intro text other hsame
  rw [quotedChars, quotedChars, List.cons_append, List.cons_append] at hsame
  obtain ⟨hquote, hbody⟩ := List.cons.inj hsame
  rw [← hquote] at hbody
  have hread := unescape?_escaped (quoteOf_cases text)
  refine eq_of_flatMap_eq (fun c hempty => ?_) (fun c _ d _ left right hcode => ?_)
    (List.append_cancel_right hbody)
  · have hnone := hread c []
    rw [hempty] at hnone
    cases hnone
  · have hboth := hread c left
    rw [hcode, hread d right] at hboth
    obtain ⟨rfl, rfl⟩ := Prod.mk.inj (Option.some.inj hboth)
    exact ⟨rfl, rfl⟩

end Text

end Diagnostics
