import Mathlib.Order.Bounds.Basic
import Mathlib.Tactic.SplitIfs
import Diagnostics.Proofs.Except
import Diagnostics.Text.Utf8

/-!
# Well-formed UTF-8

Which bytes are UTF-8, said by the bits of each sequence and without the decoder. The bytes that
are UTF-8 are those of the encoded texts, and the decoder undoes the encoding. At anything else it
stops, and the position it names is the length of the longest beginning that is UTF-8: a sequence
that breaks off or goes wrong is charged to its first byte.
-/

namespace Diagnostics.Utf8

/-- The bytes that hold a code point: the first one begins with as many ones as there are bytes,
every further one begins with `10`, and the bits that are left spell the code point. No shorter
sequence has room for it. -/
inductive Holds (n : Nat) : List UInt8 → Prop
  | one {a : UInt8} (ha : a.toNat / 128 = 0b0) (hn : n = a.toNat % 128) : Holds n [a]
  | two {a b : UInt8} (ha : a.toNat / 32 = 0b110) (hb : b.toNat / 64 = 0b10)
      (hn : n = a.toNat % 32 * 64 + b.toNat % 64) (hlong : 0x80 ≤ n) : Holds n [a, b]
  | three {a b c : UInt8} (ha : a.toNat / 16 = 0b1110) (hb : b.toNat / 64 = 0b10)
      (hc : c.toNat / 64 = 0b10)
      (hn : n = a.toNat % 16 * 4096 + b.toNat % 64 * 64 + c.toNat % 64) (hlong : 0x800 ≤ n) :
      Holds n [a, b, c]
  | four {a b c d : UInt8} (ha : a.toNat / 8 = 0b11110) (hb : b.toNat / 64 = 0b10)
      (hc : c.toNat / 64 = 0b10) (hd : d.toNat / 64 = 0b10)
      (hn : n = a.toNat % 8 * 262144 + b.toNat % 64 * 4096 + c.toNat % 64 * 64 + d.toNat % 64)
      (hlong : 0x10000 ≤ n) : Holds n [a, b, c, d]

/-- Sequences one after the other, each for a code point that is a character: none that is a
surrogate, and none past the last one. -/
inductive WellFormed : List UInt8 → Prop
  | nil : WellFormed []
  | cons {n : Nat} {sequence rest : List UInt8} (hvalid : n.isValidChar)
      (hholds : Holds n sequence) (hrest : WellFormed rest) : WellFormed (sequence ++ rest)

/-! ### Encoding -/

theorem encodeChar_eq (c : Char) :
    encodeChar c =
      if c.toNat ≤ 127 then [UInt8.ofNat c.toNat]
      else if c.toNat ≤ 2047 then
        [UInt8.ofNat (0xC0 + c.toNat / 64 % 32), UInt8.ofNat (0x80 + c.toNat % 64)]
      else if c.toNat ≤ 65535 then
        [UInt8.ofNat (0xE0 + c.toNat / 4096 % 16), UInt8.ofNat (0x80 + c.toNat / 64 % 64),
          UInt8.ofNat (0x80 + c.toNat % 64)]
      else
        [UInt8.ofNat (0xF0 + c.toNat / 262144 % 8), UInt8.ofNat (0x80 + c.toNat / 4096 % 64),
          UInt8.ofNat (0x80 + c.toNat / 64 % 64), UInt8.ofNat (0x80 + c.toNat % 64)] := by
  simp only [Nat.add_comm _ (_ % _)]
  rfl

theorem toNat_lt (c : Char) : c.toNat < 0x110000 := by
  have hvalid : c.toNat.isValidChar := c.valid
  rcases hvalid with h | h <;> omega

theorem toNat_byte {m : Nat} (hm : m < 256) : (UInt8.ofNat m).toNat = m :=
  UInt8.toNat_ofNat_of_lt hm

theorem eq_byte {a : UInt8} {m : Nat} (h : a.toNat = m) : a = UInt8.ofNat m := by
  rw [← h, UInt8.ofNat_toNat]

theorem holds_encodeChar (c : Char) : Holds c.toNat (encodeChar c) := by
  have hlt := toNat_lt c
  have htail (k : Nat) : (UInt8.ofNat (0x80 + k % 64)).toNat = 0x80 + k % 64 :=
    toNat_byte (by omega)
  have hlast := htail c.toNat
  have hmiddle := htail (c.toNat / 64)
  have hsecond := htail (c.toNat / 4096)
  rw [encodeChar_eq]
  split
  case isTrue hone =>
    have ha := toNat_byte (m := c.toNat) (by omega)
    exact .one (by omega) (by omega)
  case isFalse hone =>
    split
    case isTrue htwo =>
      have ha := toNat_byte (m := 0xC0 + c.toNat / 64 % 32) (by omega)
      exact .two (by omega) (by omega) (by omega) (by omega)
    case isFalse htwo =>
      split
      case isTrue hthree =>
        have ha := toNat_byte (m := 0xE0 + c.toNat / 4096 % 16) (by omega)
        exact .three (by omega) (by omega) (by omega) (by omega) (by omega)
      case isFalse hthree =>
        have ha := toNat_byte (m := 0xF0 + c.toNat / 262144 % 8) (by omega)
        exact .four (by omega) (by omega) (by omega) (by omega) (by omega) (by omega)

/-- There is no other way to hold the code point of a character. -/
theorem eq_encodeChar_of_holds {c : Char} {sequence : List UInt8} (h : Holds c.toNat sequence) :
    sequence = encodeChar c := by
  rw [encodeChar_eq]
  cases h with
  | @one a ha hn =>
      have hlead : a = UInt8.ofNat c.toNat := eq_byte (by omega)
      rw [if_pos (by omega), ← hlead]
  | @two a b ha hb hn hlong =>
      have hlead : a = UInt8.ofNat (0xC0 + c.toNat / 64 % 32) := eq_byte (by omega)
      have hlast : b = UInt8.ofNat (0x80 + c.toNat % 64) := eq_byte (by omega)
      rw [if_neg (by omega), if_pos (by omega), ← hlead, ← hlast]
  | @three a b d ha hb hd hn hlong =>
      have hlead : a = UInt8.ofNat (0xE0 + c.toNat / 4096 % 16) := eq_byte (by omega)
      have hmiddle : b = UInt8.ofNat (0x80 + c.toNat / 64 % 64) := eq_byte (by omega)
      have hlast : d = UInt8.ofNat (0x80 + c.toNat % 64) := eq_byte (by omega)
      rw [if_neg (by omega), if_neg (by omega), if_pos (by omega), ← hlead, ← hmiddle, ← hlast]
  | @four a b d e ha hb hd he hn hlong =>
      have hlead : a = UInt8.ofNat (0xF0 + c.toNat / 262144 % 8) := eq_byte (by omega)
      have hsecond : b = UInt8.ofNat (0x80 + c.toNat / 4096 % 64) := eq_byte (by omega)
      have hmiddle : d = UInt8.ofNat (0x80 + c.toNat / 64 % 64) := eq_byte (by omega)
      have hlast : e = UInt8.ofNat (0x80 + c.toNat % 64) := eq_byte (by omega)
      rw [if_neg (by omega), if_neg (by omega), if_neg (by omega), ← hlead, ← hsecond,
        ← hmiddle, ← hlast]

theorem toNat_ofNat_of_valid {n : Nat} (hvalid : n.isValidChar) : (Char.ofNat n).toNat = n := by
  rw [Char.ofNat, dif_pos hvalid]
  rfl

theorem wellFormed_iff (bytes : List UInt8) : WellFormed bytes ↔ ∃ text, encode text = bytes := by
  constructor
  · intro hformed
    induction hformed with
    | nil => exact ⟨[], rfl⟩
    | @cons n sequence rest hvalid hholds _ ih =>
        obtain ⟨text, rfl⟩ := ih
        rw [← toNat_ofNat_of_valid hvalid] at hholds
        exact ⟨Char.ofNat n :: text, by rw [encode_cons, eq_encodeChar_of_holds hholds]⟩
  · rintro ⟨text, rfl⟩
    induction text with
    | nil => exact .nil
    | cons c text ih => exact .cons c.valid (holds_encodeChar c) ih

/-! ### Decoding -/

theorem isTail_iff {b : UInt8} : isTail b = true ↔ b.toNat / 64 = 0b10 := by
  simp only [isTail, Bool.and_eq_true, decide_eq_true_eq, UInt8.le_iff_toNat_le,
    UInt8.reduceToNat]
  omega

theorem isSecondOfThree_iff {a b : UInt8} :
    isSecondOfThree a b = true ↔
      b.toNat / 64 = 0b10 ∧ (a.toNat = 0xE0 → 0xA0 ≤ b.toNat) ∧
        (a.toNat = 0xED → b.toNat ≤ 0x9F) := by
  simp only [isSecondOfThree, ← UInt8.toNat_inj]
  split_ifs <;>
    simp only [isTail_iff, Bool.and_eq_true, decide_eq_true_eq, UInt8.le_iff_toNat_le,
      UInt8.reduceToNat] at * <;>
    omega

theorem isSecondOfFour_iff {a b : UInt8} :
    isSecondOfFour a b = true ↔
      b.toNat / 64 = 0b10 ∧ (a.toNat = 0xF0 → 0x90 ≤ b.toNat) ∧
        (a.toNat = 0xF4 → b.toNat ≤ 0x8F) := by
  simp only [isSecondOfFour, ← UInt8.toNat_inj]
  split_ifs <;>
    simp only [isTail_iff, Bool.and_eq_true, decide_eq_true_eq, UInt8.le_iff_toNat_le,
      UInt8.reduceToNat] at * <;>
    omega

theorem lt_ascii_iff {a : UInt8} : a < 0x80 ↔ a.toNat / 128 = 0b0 := by
  simp only [UInt8.lt_iff_toNat_lt, UInt8.reduceToNat]
  omega

theorem decodeFrom_holds_append {n : Nat} {sequence : List UInt8} (hvalid : n.isValidChar)
    (hholds : Holds n sequence) (position : Nat) (rest : List UInt8) :
    decodeFrom position (sequence ++ rest) =
      (Char.ofNat n :: ·) <$> decodeFrom (position + sequence.length) rest := by
  have hbound : n < 0xD800 ∨ 0xDFFF < n ∧ n < 0x110000 := hvalid
  rw [decodeFrom.eq_def]
  cases hholds with
  | @one a ha hn =>
      have hn' : a.toNat = n := by omega
      simp [lt_ascii_iff.mpr ha, hn']
  | @two a b ha hb hn hlong =>
      have hascii : ¬ a < 0x80 := by rw [lt_ascii_iff]; omega
      have hlead : 0xC2 ≤ a ∧ a ≤ 0xDF := by
        simp only [UInt8.le_iff_toNat_le, UInt8.reduceToNat]; omega
      simp [hascii, hlead, isTail_iff.mpr hb, charOfTwo, tailBits, ← hn]
  | @three a b c ha hb hc hn hlong =>
      have hascii : ¬ a < 0x80 := by rw [lt_ascii_iff]; omega
      have htwo : ¬ (0xC2 ≤ a ∧ a ≤ 0xDF) := by
        simp only [UInt8.le_iff_toNat_le, UInt8.reduceToNat]; omega
      have hlead : 0xE0 ≤ a ∧ a ≤ 0xEF := by
        simp only [UInt8.le_iff_toNat_le, UInt8.reduceToNat]; omega
      have hsecond : isSecondOfThree a b = true := isSecondOfThree_iff.mpr (by omega)
      simp [hascii, htwo, hlead, hsecond, isTail_iff.mpr hc, charOfThree, tailBits, ← hn]
  | @four a b c d ha hb hc hd hn hlong =>
      have hascii : ¬ a < 0x80 := by rw [lt_ascii_iff]; omega
      have htwo : ¬ (0xC2 ≤ a ∧ a ≤ 0xDF) := by
        simp only [UInt8.le_iff_toNat_le, UInt8.reduceToNat]; omega
      have hthree : ¬ (0xE0 ≤ a ∧ a ≤ 0xEF) := by
        simp only [UInt8.le_iff_toNat_le, UInt8.reduceToNat]; omega
      have hlead : 0xF0 ≤ a ∧ a ≤ 0xF4 := by
        simp only [UInt8.le_iff_toNat_le, UInt8.reduceToNat]; omega
      have hsecond : isSecondOfFour a b = true := isSecondOfFour_iff.mpr (by omega)
      simp [hascii, htwo, hthree, hlead, hsecond, isTail_iff.mpr hc, isTail_iff.mpr hd,
        charOfFour, tailBits, ← hn]

theorem decodeFrom_encode_append (text : List Char) (position : Nat) (rest : List UInt8) :
    decodeFrom position (encode text ++ rest) =
      (text ++ ·) <$> decodeFrom (position + (encode text).length) rest := by
  induction text generalizing position with
  | nil => simp
  | cons c text ih =>
      have hchar := decodeFrom_holds_append c.valid (holds_encodeChar c) position
        (encode text ++ rest)
      have hcode : Char.ofNat c.val.toNat = c := Char.ofNat_toNat c
      rw [encode_cons, List.append_assoc, hchar, ih, List.length_append, Nat.add_assoc, hcode]
      cases decodeFrom (position + ((encodeChar c).length + (encode text).length)) rest <;> rfl

theorem Holds.length_pos {n : Nat} {sequence : List UInt8} (h : Holds n sequence) :
    0 < sequence.length := by
  cases h <;> simp

/-- One step of the decoder: the bytes begin with a character, or it stops where it stands. -/
theorem decodeFrom_step (position : Nat) {bytes : List UInt8} (hne : bytes ≠ []) :
    (∃ (n : Nat) (sequence rest : List UInt8), n.isValidChar ∧ Holds n sequence ∧
      bytes = sequence ++ rest) ∨
      ∃ reason, decodeFrom position bytes = .error ⟨position, reason⟩ := by
  fun_cases decodeFrom position bytes
  case case1 => exact absurd rfl hne
  case case2 a rest hascii =>
    rw [lt_ascii_iff] at hascii
    exact .inl ⟨_, [a], rest, .inl (by omega), .one hascii rfl, rfl⟩
  case case4 a hascii hlead b rest hb =>
    simp only [Bool.and_eq_true, decide_eq_true_eq, UInt8.le_iff_toNat_le,
      UInt8.reduceToNat] at hlead
    rw [isTail_iff] at hb
    exact .inl ⟨_, [a, b], rest, .inl (by omega), .two (by omega) hb rfl (by omega), rfl⟩
  case case8 a hascii htwo hlead b hsecond c rest hc =>
    simp only [Bool.and_eq_true, decide_eq_true_eq, UInt8.le_iff_toNat_le,
      UInt8.reduceToNat] at hlead
    rw [isSecondOfThree_iff] at hsecond
    rw [isTail_iff] at hc
    refine .inl ⟨_, [a, b, c], rest, ?_, .three (by omega) hsecond.1 hc rfl (by omega), rfl⟩
    simp only [Nat.isValidChar]
    omega
  case case14 a hascii htwo hthree hlead b hsecond c hc d rest hd =>
    simp only [Bool.and_eq_true, decide_eq_true_eq, UInt8.le_iff_toNat_le,
      UInt8.reduceToNat] at hlead
    rw [isSecondOfFour_iff] at hsecond
    rw [isTail_iff] at hc hd
    exact .inl ⟨_, [a, b, c, d], rest, .inr (by omega),
      .four (by omega) hsecond.1 hc hd rfl (by omega), rfl⟩
  all_goals exact .inr ⟨_, rfl⟩

theorem decodeFrom_ok {position : Nat} {bytes : List UInt8} {text : List Char}
    (h : decodeFrom position bytes = .ok text) : encode text = bytes := by
  induction hlength : bytes.length using Nat.strongRecOn
    generalizing position bytes text with
  | ind length ih =>
      by_cases hne : bytes = []
      · subst hne
        rw [decodeFrom] at h
        cases h
        rfl
      · obtain ⟨n, sequence, rest, hvalid, hholds, rfl⟩ | ⟨reason, herror⟩ :=
          decodeFrom_step position hne
        · rw [decodeFrom_holds_append hvalid hholds] at h
          obtain ⟨later, hlater, rfl⟩ := map_eq_ok_iff.mp h
          have hrest := ih rest.length (by have := hholds.length_pos; simp at hlength; omega)
            hlater rfl
          rw [← toNat_ofNat_of_valid hvalid] at hholds
          rw [encode_cons, hrest, eq_encodeChar_of_holds hholds]
        · rw [herror] at h
          cases h

theorem decodeFrom_error {position : Nat} {bytes : List UInt8} {cause : DecodeError}
    (h : decodeFrom position bytes = .error cause) :
    ∃ text rest, bytes = encode text ++ rest ∧
      cause.position = position + (encode text).length := by
  induction hlength : bytes.length using Nat.strongRecOn
    generalizing position bytes with
  | ind length ih =>
      by_cases hne : bytes = []
      · subst hne
        rw [decodeFrom] at h
        cases h
      · obtain ⟨n, sequence, rest, hvalid, hholds, rfl⟩ | ⟨reason, herror⟩ :=
          decodeFrom_step position hne
        · rw [decodeFrom_holds_append hvalid hholds] at h
          have hlater := map_eq_error_iff.mp h
          obtain ⟨text, last, hrest, hposition⟩ :=
            ih rest.length (by have := hholds.length_pos; simp at hlength; omega) hlater rfl
          rw [← toNat_ofNat_of_valid hvalid] at hholds
          refine ⟨Char.ofNat n :: text, last, ?_, ?_⟩
          · rw [encode_cons, hrest, eq_encodeChar_of_holds hholds, List.append_assoc]
          · rw [encode_cons, List.length_append, hposition, eq_encodeChar_of_holds hholds]
            omega
        · rw [herror] at h
          cases h
          exact ⟨[], bytes, rfl, rfl⟩

theorem decode_eq_ok_iff {bytes : List UInt8} {text : List Char} :
    decode bytes = .ok text ↔ encode text = bytes := by
  refine ⟨decodeFrom_ok, fun h => ?_⟩
  have hdecoded := decodeFrom_encode_append text 0 []
  rw [List.append_nil, h, decodeFrom] at hdecoded
  rw [decode, hdecoded]
  exact congrArg Except.ok (List.append_nil text)

theorem exists_decode_eq_ok_iff {bytes : List UInt8} :
    (∃ text, decode bytes = .ok text) ↔ WellFormed bytes := by
  simp only [decode_eq_ok_iff, wellFormed_iff]

/-- The decoder names the end of the longest beginning of the bytes that it could have taken. -/
theorem isGreatest_position {bytes : List UInt8} {cause : DecodeError}
    (h : decode bytes = .error cause) :
    IsGreatest {length | length ≤ bytes.length ∧ WellFormed (bytes.take length)}
      cause.position := by
  constructor
  · obtain ⟨text, rest, rfl, hposition⟩ := decodeFrom_error h
    rw [hposition, Nat.zero_add]
    exact ⟨by simp, by simpa using (wellFormed_iff _).mpr ⟨text, rfl⟩⟩
  · rintro length ⟨hlength, hformed⟩
    obtain ⟨text, htext⟩ := (wellFormed_iff _).mp hformed
    have hsize : (encode text).length = length := by rw [htext, List.length_take]; omega
    have hdecoded := decodeFrom_encode_append text 0 (bytes.drop length)
    rw [htext, List.take_append_drop, ← htext, hsize] at hdecoded
    rw [decode, hdecoded] at h
    obtain ⟨later, rest, _, hposition⟩ := decodeFrom_error (map_eq_error_iff.mp h)
    omega

end Diagnostics.Utf8
