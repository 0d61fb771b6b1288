import Diagnostics.Text.LowerCase

/-!
# Lower case of ASCII text

On ASCII text the full lower case mapping is the one of single letters, as no character
before or after a letter matters. A text that has the letters of an ASCII name, in
whatever case, is ASCII itself and is lowered to the lowered name. Nothing else is, as long
as the name has no k: beyond ASCII, only the Kelvin sign is lowered to an ASCII letter.
-/

namespace Diagnostics.Text

def IsAscii (text : String) : Prop :=
  ∀ c ∈ text.toList, c.toNat < 128

instance (text : String) : Decidable (IsAscii text) :=
  List.decidableBAll (fun c : Char => c.toNat < 128) text.toList

/-- The texts differ at most in the case of ASCII letters. -/
def SameLetters (left right : String) : Prop :=
  left.toList.map Char.toLower = right.toList.map Char.toLower

theorem SameLetters.refl (text : String) : SameLetters text text := rfl

/-- Of the runs of the mapping only the first one begins within ASCII. -/
theorem find?_lowerRuns_of_ascii {n : Nat} (hascii : n < 128) :
    lowerRuns.find? (·.covers n) = if 65 ≤ n ∧ n ≤ 90 then some ⟨65, 90, 1, 32⟩ else none := by
  have hrest : ∀ run ∈ lowerRuns.tail, 128 ≤ run.first := by decide +kernel
  have hnone : lowerRuns.tail.find? (·.covers n) = none := by
    rw [List.find?_eq_none]
    intro run hrun
    have hfirst := hrest run hrun
    have hbefore : ¬run.first ≤ n := by omega
    simp [LowerRun.covers, hbefore]
  have hcons : lowerRuns = ⟨65, 90, 1, 32⟩ :: lowerRuns.tail := rfl
  rw [hcons, List.find?_cons, hnone]
  have hcovers : LowerRun.covers ⟨65, 90, 1, 32⟩ n = decide (65 ≤ n ∧ n ≤ 90) := by
    simp [LowerRun.covers, Nat.mod_one]
  rw [hcovers]
  by_cases hcapital : 65 ≤ n ∧ n ≤ 90
  · rw [decide_eq_true hcapital, if_pos hcapital]
  · rw [decide_eq_false hcapital, if_neg hcapital]

theorem lowerChar_of_ascii {c : Char} (hascii : c.toNat < 128) : lowerChar c = c.toLower := by
  have hall : ∀ n < 128, (Char.ofNat n).toLower =
      if 65 ≤ n ∧ n ≤ 90 then Char.ofNat (n + 32) else Char.ofNat n := by decide
  have hc := hall c.toNat hascii
  rw [Char.ofNat_toNat] at hc
  rw [lowerChar, find?_lowerRuns_of_ascii hascii, hc]
  by_cases hcapital : 65 ≤ c.toNat ∧ c.toNat ≤ 90
  · rw [if_pos hcapital, if_pos hcapital]
    rfl
  · rw [if_neg hcapital, if_neg hcapital]

theorem lowerFrom_of_ascii (before : List Char) {cs : List Char}
    (hascii : ∀ c ∈ cs, c.toNat < 128) : lowerFrom before cs = cs.map Char.toLower := by
  induction cs generalizing before with
  | nil => rfl
  | cons c rest ih =>
      obtain ⟨hc, hrest⟩ := List.forall_mem_cons.mp hascii
      have hsigma : c ≠ 'Σ' := by
        rintro rfl
        exact absurd hc (by decide)
      have hdotted : c ≠ 'İ' := by
        rintro rfl
        exact absurd hc (by decide)
      rw [lowerFrom, if_neg hsigma, if_neg hdotted, lowerChar_of_ascii hc, ih _ hrest]
      rfl

theorem lower_of_ascii {text : String} (hascii : IsAscii text) :
    lower text = String.ofList (text.toList.map Char.toLower) :=
  congrArg String.ofList (lowerFrom_of_ascii [] hascii)

theorem toLower_of_isDigit {c : Char} (hc : c.isDigit) : c.toLower = c := by
  rw [Char.isDigit, Bool.and_eq_true, decide_eq_true_eq, decide_eq_true_eq] at hc
  refine dif_neg fun hcapital => ?_
  have hle : c.val.toNat ≤ 57 := hc.2
  have hge : 65 ≤ c.val.toNat := hcapital.1
  omega

/-- Only the capital letters of ASCII are changed, and to letters of ASCII. -/
theorem toNat_toLower_lt_iff (c : Char) : c.toLower.toNat < 128 ↔ c.toNat < 128 := by
  by_cases hcapital : c.val ≥ 'A'.val ∧ c.val ≤ 'Z'.val
  · have hle : c.val.toNat ≤ 90 := hcapital.2
    have hlowered : c.toLower.toNat = c.val.toNat + 32 := by
      have hval : c.toLower.toNat = (c.val + ('a'.val - 'A'.val)).toNat :=
        congrArg Char.toNat (dif_pos hcapital)
      rw [hval, UInt32.toNat_add]
      change (c.val.toNat + 32) % 2 ^ 32 = _
      omega
    rw [hlowered]
    change c.val.toNat + 32 < 128 ↔ c.val.toNat < 128
    omega
  · have hsame : c.toLower = c := dif_neg hcapital
    rw [hsame]

theorem SameLetters.isAscii {text name : String} (hsame : SameLetters text name)
    (hascii : IsAscii name) : IsAscii text := by
  intro c hc
  have hlowered : c.toLower ∈ name.toList.map Char.toLower := by
    rw [← hsame]
    exact List.mem_map_of_mem hc
  obtain ⟨other, hother, heq⟩ := List.mem_map.mp hlowered
  rw [← toNat_toLower_lt_iff, ← heq, toNat_toLower_lt_iff]
  exact hascii other hother

/-- A name of ASCII letters is recognised in any letter case. -/
theorem lower_of_sameLetters {text name : String} (hsame : SameLetters text name)
    (hascii : IsAscii name) : lower text = lower name := by
  rw [lower_of_ascii (hsame.isAscii hascii), lower_of_ascii hascii, hsame]

/-! ### What is lowered to ASCII -/

/-- No run that begins beyond ASCII lowers a character into it, except for the one of the
Kelvin sign. -/
theorem lowerRun_beyond_ascii {run : LowerRun} (hrun : run ∈ lowerRuns) :
    run.last < 128 ∨ run.first = 0x212A ∧ run.last = 0x212A ∧ run.shift = -8383 ∨
      128 ≤ run.first + run.shift ∧
        (run.last + run.shift < 0xD800 ∨
          0xDFFF < run.first + run.shift ∧ run.last + run.shift < 0x110000) := by
  have hall : ∀ run ∈ lowerRuns,
      run.last < 128 ∨ run.first = 0x212A ∧ run.last = 0x212A ∧ run.shift = -8383 ∨
        128 ≤ run.first + run.shift ∧
          (run.last + run.shift < 0xD800 ∨
            0xDFFF < run.first + run.shift ∧ run.last + run.shift < 0x110000) := by
    decide +kernel
  exact hall run hrun

/-- Beyond ASCII, only the Kelvin sign is lowered to an ASCII letter. -/
theorem ascii_of_lowerChar {c : Char} (hascii : (lowerChar c).toNat < 128)
    (hkelvin : lowerChar c ≠ 'k') : c.toNat < 128 := by
  cases hfind : lowerRuns.find? (·.covers c.toNat) with
  | none =>
      have hlowered : lowerChar c = c := by simp only [lowerChar, hfind]
      rwa [hlowered] at hascii
  | some run =>
      have hlowered : lowerChar c = Char.ofNat (c.toNat + run.shift).toNat := by
        simp only [lowerChar, hfind]
      have hcovers := List.find?_some hfind
      simp only [LowerRun.covers, Bool.and_eq_true, decide_eq_true_eq] at hcovers
      obtain ⟨⟨hfirst, hlast⟩, -⟩ := hcovers
      rcases lowerRun_beyond_ascii (List.mem_of_find?_eq_some hfind) with
        hwithin | ⟨hfirstEq, hlastEq, hshift⟩ | ⟨habove, hbelow⟩
      · omega
      · have hsign : c.toNat = 0x212A := by omega
        rw [hlowered, hsign, hshift] at hkelvin
        exact absurd rfl hkelvin
      · have hvalid : (c.toNat + run.shift).toNat.isValidChar := by
          unfold Nat.isValidChar
          omega
        have hnumber : (lowerChar c).toNat = (c.toNat + run.shift).toNat := by
          rw [hlowered, Char.ofNat, dif_pos hvalid]
          rfl
        omega

theorem ascii_of_lowerFrom (before : List Char) {cs : List Char}
    (hascii : ∀ c ∈ lowerFrom before cs, c.toNat < 128) (hkelvin : 'k' ∉ lowerFrom before cs) :
    ∀ c ∈ cs, c.toNat < 128 := by
  induction cs generalizing before with
  | nil => exact List.forall_mem_nil _
  | cons c rest ih =>
      rw [lowerFrom] at hascii hkelvin
      obtain ⟨hfirst, hothers⟩ := List.forall_mem_append.mp hascii
      rw [List.mem_append, not_or] at hkelvin
      refine List.forall_mem_cons.mpr ⟨?_, ih _ hothers hkelvin.2⟩
      have hletter := hkelvin.1
      by_cases hsigma : c = 'Σ'
      · rw [if_pos hsigma] at hfirst
        split at hfirst
        · exact absurd (hfirst 'ς' List.mem_cons_self) (by decide)
        · exact absurd (hfirst 'σ' List.mem_cons_self) (by decide)
      rw [if_neg hsigma] at hfirst hletter
      by_cases hdotted : c = 'İ'
      · rw [if_pos hdotted] at hfirst
        exact absurd (hfirst '\u0307' (by decide)) (by decide)
      rw [if_neg hdotted] at hfirst hletter
      exact ascii_of_lowerChar (hfirst _ List.mem_cons_self) fun heq =>
        hletter (List.mem_singleton.mpr heq.symm)

/-- An ASCII name without a k is recognised in any letter case, and nothing else is taken for
it. -/
theorem lower_eq_lower_iff {text name : String} (hascii : IsAscii name)
    (hkelvin : 'k' ∉ (lower name).toList) : lower text = lower name ↔ SameLetters text name := by
  refine ⟨fun hlower => ?_, fun hsame => lower_of_sameLetters hsame hascii⟩
  have hname := lower_of_ascii hascii
  have hletters : lowerFrom [] text.toList = name.toList.map Char.toLower :=
    String.ofList_injective (hlower.trans hname)
  rw [hname, String.toList_ofList] at hkelvin
  have htext : IsAscii text := by
    refine ascii_of_lowerFrom [] ?_ (by rwa [hletters])
    rw [hletters, List.forall_mem_map]
    exact fun c hc => (toNat_toLower_lt_iff c).mpr (hascii c hc)
  rw [lowerFrom_of_ascii [] htext] at hletters
  exact hletters

end Diagnostics.Text
