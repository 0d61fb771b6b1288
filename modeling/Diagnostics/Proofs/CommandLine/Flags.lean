import Diagnostics.CommandLine.Run
import Diagnostics.Proofs.Config.Layered

/-!
# Options that flags force

The flags of a command give values to some options, each to its own. They suit these
options, so laying them over a configuration never fails, and they hide what it says.
-/

namespace Diagnostics.CommandLine

/-- The value that the flags of a command force for an option. -/
def RenderArguments.forced? (arguments : RenderArguments) : OptionKey → Option Value
  | .charSet => if arguments.ascii then some (.text CharSet.ascii.name) else none
  | .color => if arguments.noColor then some (.bool false) else none
  | .ansiMode => if arguments.noColor then some (.text AnsiMode.off.name) else none
  | .offsetUnit => arguments.offsetUnit.map fun unit => .text unit.name
  | .labelAttach => arguments.attach.map fun attach => .text attach.name
  | .tabWidth => arguments.tabWidth.map .int
  | _ => none

theorem find?_ite (given : Bool) (settings : Settings) (name : String) :
    Keyed.find? (if given then settings else []) name =
      if given then Keyed.find? settings name else none := by
  cases given <;> rfl

theorem find?_map_toList (given : Option α) (other : String) (value : α → Value) (name : String) :
    Keyed.find? (given.toList.map fun a => (other, value a)) name =
      if other = name then given.map value else none := by
  cases given <;> simp [Keyed.find?]

theorem find?_forcedSettings (arguments : RenderArguments) (key : OptionKey) :
    Keyed.find? (forcedSettings arguments) key.name = arguments.forced? key := by
  rw [forcedSettings]
  simp only [Keyed.find?_append, find?_ite, find?_map_toList, Keyed.find?]
  cases key <;>
    simp only [OptionKey.name, String.reduceEq, if_false, if_true, ite_self, Option.or_none,
      Option.none_or, RenderArguments.forced?]

/-- The names of the options that can be forced, in the order in which they are set. -/
def forcedNames : List String :=
  ["char_set", "color", "ansi_mode", "index_type", "label_attach", "tab_width"]

theorem keys_forcedSettings_sublist (arguments : RenderArguments) :
    (Keyed.keys (forcedSettings arguments)).Sublist forcedNames := by
  have hoption : ∀ {α : Type} (given : Option α) (name : String) (value : α → Value),
      ((given.toList.map fun a => (name, value a)).map Prod.fst).Sublist [name] := by
    intro α given name value
    cases given <;> simp
  have hnames : forcedNames =
      ["char_set"] ++ ["color", "ansi_mode"] ++ ["index_type"] ++ ["label_attach"] ++
        ["tab_width"] := rfl
  simp only [forcedSettings, Keyed.keys, List.map_append, hnames]
  refine (((List.Sublist.append ?_ ?_).append (hoption _ _ _)).append (hoption _ _ _)).append
    (hoption _ _ _)
  · cases arguments.ascii <;> simp
  · cases arguments.noColor <;> simp

theorem nodup_keys_forcedSettings (arguments : RenderArguments) :
    (Keyed.keys (forcedSettings arguments)).Nodup :=
  (keys_forcedSettings_sublist arguments).nodup (by decide)

theorem ofName?_of_mem_forcedNames {name : String} (hname : name ∈ forcedNames) :
    ∃ key, OptionKey.ofName? name = some key := by
  have hnames : forcedNames = [OptionKey.charSet, .color, .ansiMode, .offsetUnit, .labelAttach,
    .tabWidth].map OptionKey.name := rfl
  rw [hnames, List.mem_map] at hname
  obtain ⟨key, -, rfl⟩ := hname
  exact ⟨key, OptionKey.ofName?_name key⟩

/-! ### Forced values suit their options -/

theorem lower_attach (attach : Attach) : Text.lower attach.name = attach.name := by
  cases attach <;> rw [Text.lower_of_ascii (by decide)] <;> rfl

theorem lower_offsetUnit (unit : OffsetUnit) : Text.lower unit.name = unit.name := by
  cases unit <;> rw [Text.lower_of_ascii (by decide)] <;> rfl

theorem lower_charSet (charSet : CharSet) : Text.lower charSet.name = charSet.name := by
  cases charSet <;> rw [Text.lower_of_ascii (by decide)] <;> rfl

theorem lower_ansiMode (mode : AnsiMode) : Text.lower mode.name = mode.name := by
  cases mode <;> rw [Text.lower_of_ascii (by decide)] <;> rfl

theorem readMember_text {names : List (String × α)} {member? : Choice → Option α}
    {key : OptionKey} {name : String} {member : α} (hlower : Text.lower name = name)
    (hfind : Keyed.find? names name = some member) :
    Options.readMember names member? key (.text name) = .ok member := by
  simp only [Options.readMember, hlower, hfind]

/-- A forced value is as it will be shown, and its option takes it. -/
theorem forced?_suits {arguments : RenderArguments} {key : OptionKey} {value : Value}
    (hforced : arguments.forced? key = some value) :
    value.settled = value ∧
      ∀ options : Options, ∃ changed, options.set key value = .ok changed := by
  cases key
  case charSet =>
    obtain ⟨-, hvalue⟩ := Option.ite_none_right_eq_some.mp hforced
    obtain rfl := Option.some.inj hvalue
    refine ⟨congrArg Value.text (lower_charSet _),
      fun options => ⟨{ options with charSet := .ascii }, ?_⟩⟩
    rw [Options.set, Options.readCharSet, readMember_text (lower_charSet _) rfl]
    rfl
  case color =>
    obtain ⟨-, hvalue⟩ := Option.ite_none_right_eq_some.mp hforced
    obtain rfl := Option.some.inj hvalue
    exact ⟨rfl, fun options => ⟨_, rfl⟩⟩
  case ansiMode =>
    obtain ⟨-, hvalue⟩ := Option.ite_none_right_eq_some.mp hforced
    obtain rfl := Option.some.inj hvalue
    refine ⟨congrArg Value.text (lower_ansiMode _),
      fun options => ⟨{ options with ansiMode := .off }, ?_⟩⟩
    rw [Options.set, Options.readAnsiMode, readMember_text (lower_ansiMode _) rfl]
    rfl
  case offsetUnit =>
    obtain ⟨unit, -, rfl⟩ := Option.map_eq_some_iff.mp hforced
    have hfind : Keyed.find? OffsetUnit.names unit.name = some unit := by cases unit <;> rfl
    refine ⟨congrArg Value.text (lower_offsetUnit _),
      fun options => ⟨{ options with offsetUnit := unit }, ?_⟩⟩
    rw [Options.set, Options.readOffsetUnit, readMember_text (lower_offsetUnit _) hfind]
    rfl
  case labelAttach =>
    obtain ⟨attach, -, rfl⟩ := Option.map_eq_some_iff.mp hforced
    have hfind : Keyed.find? Attach.names attach.name = some attach := by cases attach <;> rfl
    refine ⟨congrArg Value.text (lower_attach _),
      fun options => ⟨{ options with labelAttach := attach }, ?_⟩⟩
    rw [Options.set, Options.readAttach, readMember_text (lower_attach _) hfind]
    rfl
  case tabWidth =>
    obtain ⟨width, -, rfl⟩ := Option.map_eq_some_iff.mp hforced
    exact ⟨rfl, fun options => ⟨_, rfl⟩⟩
  all_goals cases hforced

/-- Flags decide about their options, and the configuration below about all others. -/
theorem exists_overlay_forcedSettings (base : Config) {arguments : RenderArguments}
    (hwidth : ∀ width, arguments.tabWidth = some width → 1 ≤ width) :
    ∃ config, base.overlay (forcedSettings arguments) = .ok config ∧
      ∀ key, config.value key = (arguments.forced? key).getD (base.value key) := by
  have hdistinct := nodup_keys_forcedSettings arguments
  have hvalue : ∀ key (below : Value),
      ((Keyed.find? (forcedSettings arguments) key.name).map Value.settled).getD below =
        (arguments.forced? key).getD below := by
    intro key below
    rw [find?_forcedSettings]
    cases hforced : arguments.forced? key with
    | none => rfl
    | some value => exact (forced?_suits hforced).1
  obtain ⟨options, hset⟩ : ∃ options, base.toOptions.setAll (forcedSettings arguments) =
      .ok options :=
    Options.exists_setAll hdistinct fun key value hfind =>
      (forced?_suits (find?_forcedSettings arguments key ▸ hfind)).2
  have hoptions := fun key => (Options.value_of_setAll hdistinct hset key).trans (hvalue key _)
  have hpos : 1 ≤ options.tabWidth := by
    have htab := hoptions .tabWidth
    cases hgiven : arguments.tabWidth with
    | none =>
        simp only [RenderArguments.forced?, hgiven] at htab
        rw [Value.int.inj htab]
        exact base.tabWidth_pos
    | some width =>
        simp only [RenderArguments.forced?, hgiven] at htab
        rw [Value.int.inj htab]
        exact hwidth width hgiven
  have hnonneg : 0 ≤ options.contextLines := by
    rw [Value.int.inj (hoptions .contextLines)]
    exact base.contextLines_nonneg
  obtain ⟨config, hcheck⟩ := Options.check_of_bounds hpos hnonneg
  refine ⟨config, ?_, fun key => ?_⟩
  · rw [Options.overlay_of_known _ fun name hname =>
      ofName?_of_mem_forcedNames ((keys_forcedSettings_sublist arguments).subset hname), hset]
    exact hcheck
  · rw [Options.toOptions_of_check hcheck]
    exact hoptions key

end Diagnostics.CommandLine
