import Diagnostics.Proofs.Config.Overlay
import Diagnostics.Proofs.Except
import Diagnostics.Proofs.Keyed
import Diagnostics.Proofs.Text.LowerCase

/-!
# Options of layers

Where settings are laid over options, an option has the value that is set for it,
and without one the value that it had below. Choices count by their names, whichever
letters they are written in.
-/

namespace Diagnostics

/-- The value that an option has once it is given this one. -/
def Value.settled : Value → Value
  | .text name => .text (Text.lower name)
  | .choice member => .text member.name
  | value => value

theorem Value.eq_int_of_settled {value : Value} {n : Int} (hsettled : value.settled = .int n) :
    value = .int n := by
  cases value with
  | text | choice => cases hsettled
  | _ => exact hsettled

/-- A member goes by the name under which it is found if no other name stands for it. -/
theorem nameIn_of_find? [DecidableEq α] {names : List (String × α)} {name : String} {member : α}
    (hdistinct : (names.map Prod.snd).Nodup) (hfind : Keyed.find? names name = some member) :
    nameIn names member = name := by
  induction names with
  | nil => cases hfind
  | cons entry rest ih =>
      obtain ⟨first, other⟩ := entry
      obtain ⟨hnew, hrest⟩ := List.nodup_cons.mp hdistinct
      by_cases hname : first = name
      · obtain rfl : other = member := by simpa [Keyed.find?, hname] using hfind
        simp [nameIn, hname]
      · have hfind' : Keyed.find? rest name = some member := by
          simpa [Keyed.find?, hname] using hfind
        have hne : other ≠ member := by
          rintro rfl
          exact hnew (List.mem_map.mpr ⟨_, Keyed.mem_of_find? hfind', rfl⟩)
        rw [← ih hrest hfind', nameIn, nameIn, List.find?_cons_of_neg (by simpa using hne)]

theorem Attach.name_injective {attach other : Attach} (hname : attach.name = other.name) :
    attach = other := by
  revert hname
  cases attach <;> cases other <;> decide

theorem CharSet.name_injective {charSet other : CharSet} (hname : charSet.name = other.name) :
    charSet = other := by
  revert hname
  cases charSet <;> cases other <;> decide

theorem OffsetUnit.name_injective {unit other : OffsetUnit} (hname : unit.name = other.name) :
    unit = other := by
  revert hname
  cases unit <;> cases other <;> decide

theorem AnsiMode.name_injective {mode other : AnsiMode} (hname : mode.name = other.name) :
    mode = other := by
  revert hname
  cases mode <;> cases other <;> decide

namespace OptionKey

theorem name_of_ofName? {name : String} {key : OptionKey} (hname : ofName? name = some key) :
    key.name = name := by
  simpa using List.find?_some hname

theorem name_injective {key other : OptionKey} (hname : key.name = other.name) : key = other := by
  have hfound := ofName?_name key
  rw [hname, ofName?_name other] at hfound
  exact (Option.some.inj hfound).symm

end OptionKey

namespace Options

variable {options changed : Options} {key : OptionKey} {value : Value}

theorem eq_of_readBool {flag : Bool} (hread : readBool key value = .ok flag) :
    value = .bool flag := by
  unfold readBool at hread
  split at hread
  · rw [Except.ok.inj hread]
  · cases hread

theorem eq_of_readInt {n : Int} (hread : readInt key value = .ok n) : value = .int n := by
  unfold readInt at hread
  split at hread
  · rw [Except.ok.inj hread]
  · cases hread

/-- What is read as a member settles to the name of the member. -/
theorem settled_of_readMember [DecidableEq α] {names : List (String × α)}
    {member? : Choice → Option α} {member : α} (hdistinct : (names.map Prod.snd).Nodup)
    (hchoice : ∀ choice, member? choice = some member → choice.name = nameIn names member)
    (hread : readMember names member? key value = .ok member) :
    value.settled = .text (nameIn names member) := by
  simp only [readMember] at hread
  split at hread
  case h_2 => cases hread
  case h_1 found hfound =>
    obtain rfl := Except.ok.inj hread
    cases value with
    | text name => rw [Value.settled, nameIn_of_find? hdistinct hfound]
    | choice choice => rw [Value.settled, hchoice choice hfound]
    | _ => cases hfound

theorem value_of_set (hset : options.set key value = .ok changed) :
    changed.value key = value.settled := by
  cases key
  case crossGap | compact | underlines | multilineArrows | color | minimiseCrossings |
      enumerateNotes | enumerateHelps =>
    obtain ⟨flag, hflag, rfl⟩ := map_eq_ok_iff.mp hset
    rw [eq_of_readBool hflag]
    rfl
  case tabWidth | contextLines =>
    obtain ⟨n, hn, rfl⟩ := map_eq_ok_iff.mp hset
    rw [eq_of_readInt hn]
    rfl
  case labelAttach | charSet | offsetUnit | ansiMode =>
    obtain ⟨member, hmember, rfl⟩ := map_eq_ok_iff.mp hset
    refine (settled_of_readMember (by decide) (fun choice hchoice => ?_) hmember).symm
    cases choice <;> cases hchoice
    rfl

theorem value_of_set_of_ne (hset : options.set key value = .ok changed) {other : OptionKey}
    (hne : other ≠ key) : changed.value other = options.value other := by
  cases key <;> obtain ⟨_, -, rfl⟩ := map_eq_ok_iff.mp hset <;> cases other <;>
    first | rfl | exact absurd rfl hne

/-- If no name is given twice, every option that is named has the value given for it. -/
theorem value_of_setAll {settings : Settings} (hdistinct : (Keyed.keys settings).Nodup)
    (hset : options.setAll settings = .ok changed) (key : OptionKey) :
    changed.value key =
      ((Keyed.find? settings key.name).map Value.settled).getD (options.value key) := by
  induction settings generalizing options with
  | nil =>
      obtain rfl := Except.ok.inj hset
      rfl
  | cons setting rest ih =>
      obtain ⟨name, value⟩ := setting
      obtain ⟨hnew, hrest⟩ := List.nodup_cons.mp hdistinct
      rw [setAll] at hset
      split at hset
      case h_1 hunknown =>
        have hname : name ≠ key.name := by
          rintro rfl
          rw [OptionKey.ofName?_name] at hunknown
          cases hunknown
        rw [ih hrest hset, Keyed.find?, if_neg hname]
      case h_2 named hnamed =>
        have hnamed := OptionKey.name_of_ofName? hnamed
        split at hset
        case h_2 => cases hset
        case h_1 next hnext =>
          rw [ih hrest hset, Keyed.find?]
          by_cases hkey : named = key
          · subst hkey
            have hnone : Keyed.find? rest named.name = none :=
              Keyed.find?_eq_none_iff.mpr (hnamed ▸ hnew)
            rw [if_pos hnamed.symm, hnone, value_of_set hnext]
            rfl
          · have hname : name ≠ key.name := fun heq =>
              hkey (OptionKey.name_injective (hnamed.trans heq))
            rw [if_neg hname, value_of_set_of_ne hnext (Ne.symm hkey)]

/-- Settings that suit their options can all be laid over. -/
theorem exists_setAll {settings : Settings} (hdistinct : (Keyed.keys settings).Nodup)
    (hsuits : ∀ key value, Keyed.find? settings key.name = some value →
      ∀ options : Options, ∃ changed, options.set key value = .ok changed) :
    ∃ changed, options.setAll settings = .ok changed := by
  induction settings generalizing options with
  | nil => exact ⟨options, rfl⟩
  | cons setting rest ih =>
      obtain ⟨name, value⟩ := setting
      obtain ⟨hnew, hrest⟩ := List.nodup_cons.mp hdistinct
      have hsuits' : ∀ key value, Keyed.find? rest key.name = some value →
          ∀ options : Options, ∃ changed, options.set key value = .ok changed := by
        intro key value hfind
        have hname : name ≠ key.name := by
          rintro rfl
          exact hnew (Keyed.mem_keys_of_find? hfind)
        exact hsuits key value (by rw [Keyed.find?, if_neg hname, hfind])
      rw [setAll]
      split
      case h_1 => exact ih hrest hsuits'
      case h_2 key hkey =>
        have hname := OptionKey.name_of_ofName? hkey
        obtain ⟨next, hnext⟩ := hsuits key value (by rw [Keyed.find?, if_pos hname.symm]) options
        rw [hnext]
        exact ih hrest hsuits'

theorem check_of_bounds (hwidth : 1 ≤ options.tabWidth) (hcount : 0 ≤ options.contextLines) :
    ∃ config, options.check = .ok config := by
  rw [check, dif_pos hwidth, dif_pos hcount]
  exact ⟨_, rfl⟩

theorem toOptions_of_check {config : Config} (hcheck : options.check = .ok config) :
    config.toOptions = options := by
  unfold check at hcheck
  split at hcheck
  · split at hcheck
    · obtain rfl := Except.ok.inj hcheck
      rfl
    · cases hcheck
  · cases hcheck

/-- A setting decides about its option, and the base about all others. -/
theorem value_of_overlay {base : Options} {config : Config} {settings : Settings}
    (hdistinct : (Keyed.keys settings).Nodup) (hoverlay : base.overlay settings = .ok config)
    (key : OptionKey) :
    config.value key =
      ((Keyed.find? settings key.name).map Value.settled).getD (base.value key) := by
  unfold overlay at hoverlay
  split at hoverlay
  · split at hoverlay
    case h_1 options hset =>
      rw [toOptions_of_check hoverlay]
      exact value_of_setAll hdistinct hset key
    case h_2 => cases hoverlay
  · cases hoverlay

end Options

namespace Config

/-- Options are known by the values that go by their names. -/
theorem eq_of_value {config other : Config}
    (hvalue : ∀ key, config.value key = other.value key) : config = other := by
  obtain ⟨options, hwidth, hcount⟩ := config
  obtain ⟨others, hotherWidth, hotherCount⟩ := other
  have hoptions : options = others := by
    cases options
    cases others
    rw [Options.mk.injEq]
    exact ⟨Value.bool.inj (hvalue .crossGap),
      Attach.name_injective (Value.text.inj (hvalue .labelAttach)),
      Value.bool.inj (hvalue .compact), Value.bool.inj (hvalue .underlines),
      Value.bool.inj (hvalue .multilineArrows), Value.bool.inj (hvalue .color),
      Value.int.inj (hvalue .tabWidth),
      CharSet.name_injective (Value.text.inj (hvalue .charSet)),
      OffsetUnit.name_injective (Value.text.inj (hvalue .offsetUnit)),
      Value.bool.inj (hvalue .minimiseCrossings), Value.int.inj (hvalue .contextLines),
      AnsiMode.name_injective (Value.text.inj (hvalue .ansiMode)),
      Value.bool.inj (hvalue .enumerateNotes), Value.bool.inj (hvalue .enumerateHelps)⟩
  subst hoptions
  rfl

end Config

end Diagnostics
