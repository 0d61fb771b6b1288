import Mathlib.Data.List.Sort
import Mathlib.Data.String.Basic
import Diagnostics.Proofs.Config.Accepted
import Diagnostics.Proofs.Wording
import Diagnostics.Usual

/-!
# What is said of settings

Settings on top of a base are judged in a fixed order: by their names, all unknown ones in the order
of code points, then by their values, the first that does not suit its option, then by the range of
the tab width and that of the context lines in the result, whether these were set or come from the
base. The judgement is the only one that the rules allow, and it is what is reported, unless the
value in its message cannot be put into words.
-/

namespace Diagnostics

theorem mem_unknownNames {settings : Settings} {name : String} :
    name ∈ unknownNames settings ↔
      name ∈ Keyed.keys settings ∧ ∀ key : OptionKey, key.name ≠ name := by
  rw [unknownNames, List.mem_mergeSort, List.mem_filter, Option.isNone_iff_eq_none,
    Option.eq_none_iff_forall_ne_some]
  simp only [ne_eq, OptionKey.ofName?_eq_some_iff]

theorem pairwise_unknownNames {settings : Settings} (hdistinct : (Keyed.keys settings).Nodup) :
    (unknownNames settings).Pairwise (· < ·) := by
  have hsorted : (unknownNames settings).Pairwise (· ≤ ·) := List.pairwise_mergeSort' (· ≤ ·) _
  have hnodup : (unknownNames settings).Nodup :=
    (List.mergeSort_perm _ _).nodup_iff.mpr (hdistinct.filter _)
  exact (hsorted.and hnodup).imp fun ⟨hle, hne⟩ => lt_of_le_of_ne hle hne

/-- Options are within their ranges, or one of them is the first that is not. -/
theorem Options.check_cases (options : Options) :
    (options.tabWidth < 1 ∧ options.check = .error (.tabWidth options.tabWidth)) ∨
      (1 ≤ options.tabWidth ∧ options.contextLines < 0 ∧
        options.check = .error (.contextLines options.contextLines)) ∨
      ∃ config : Config, config.toOptions = options ∧ options.check = .ok config := by
  by_cases hwidth : 1 ≤ options.tabWidth
  · by_cases hcount : 0 ≤ options.contextLines
    · obtain ⟨config, hcheck⟩ := check_of_bounds hwidth hcount
      exact .inr (.inr ⟨config, toOptions_of_check hcheck, hcheck⟩)
    · refine .inr (.inl ⟨hwidth, by omega, ?_⟩)
      rw [check, dif_pos hwidth, dif_neg hcount]
  · refine .inl ⟨by omega, ?_⟩
    rw [check, dif_neg hwidth]

namespace Config

/-- The judgement of settings on a base. -/
inductive Judged (base : Options) (settings : Settings) : Except ConfigError Config → Prop
  | unknown {names : List String} (hne : names ≠ []) (hsorted : names.Pairwise (· < ·))
      (hnames : ∀ name, name ∈ names ↔
        name ∈ Keyed.keys settings ∧ ∀ key : OptionKey, key.name ≠ name) :
      Judged base settings (.error (.unknown names))
  | refused {front back : Settings} {key : OptionKey} {value : Value} (hknown : settings.Known)
      (hsettings : settings = front ++ (key.name, value) :: back) (hfront : front.Suit)
      (hrefused : ¬key.Accepts value) : Judged base settings (.error (key.refusal value))
  | tabWidth {width : Int} (hknown : settings.Known) (hsuit : settings.Suit)
      (hvalue : base.valueUnder settings .tabWidth = .int width) (hwidth : width < 1) :
      Judged base settings (.error (.tabWidth width))
  | contextLines {width count : Int} (hknown : settings.Known) (hsuit : settings.Suit)
      (hvalue : base.valueUnder settings .tabWidth = .int width) (hwidth : 1 ≤ width)
      (hvalue' : base.valueUnder settings .contextLines = .int count) (hcount : count < 0) :
      Judged base settings (.error (.contextLines count))
  | resolved {config : Config} (hknown : settings.Known) (hsuit : settings.Suit)
      (hvalue : ∀ key, config.value key = base.valueUnder settings key) :
      Judged base settings (.ok config)

variable {base : Options} {settings : Settings}

theorem judged_overlay (base : Options) (hdistinct : (Keyed.keys settings).Nodup) :
    Judged base settings (base.overlay settings) := by
  by_cases hknown : settings.Known
  case neg =>
    rw [base.overlay_of_unknown hknown]
    exact .unknown (mt settings.known_iff.mpr hknown) (pairwise_unknownNames hdistinct)
      fun _ => mem_unknownNames
  obtain hsuit | ⟨front, back, key, value, hsettings, hfront, hrefused⟩ := settings.suit_or_refused
  case inr =>
    rw [base.overlay_of_refused hknown hsettings hfront hrefused]
    exact .refused hknown hsettings hfront hrefused
  obtain ⟨options, hvalue, hoverlay⟩ := base.overlay_of_suit hdistinct hknown hsuit
  rw [hoverlay]
  obtain ⟨hwidth, hcheck⟩ | ⟨hwidth, hcount, hcheck⟩ | ⟨config, rfl, hcheck⟩ :=
    options.check_cases
  all_goals rw [hcheck]
  · exact .tabWidth hknown hsuit (hvalue .tabWidth).symm hwidth
  · exact .contextLines hknown hsuit (hvalue .tabWidth).symm hwidth (hvalue .contextLines).symm
      hcount
  · exact .resolved hknown hsuit hvalue

theorem overlay_of_judged (hdistinct : (Keyed.keys settings).Nodup)
    {result : Except ConfigError Config} (hjudged : Judged base settings result) :
    base.overlay settings = result := by
  cases hjudged with
  | unknown hne hsorted hnames =>
      have hsame : unknownNames settings = _ := (pairwise_unknownNames hdistinct).eq_of_mem_iff
        hsorted fun name => mem_unknownNames.trans (hnames name).symm
      have hunknown : ¬settings.Known := fun hknown =>
        hne (hsame.symm.trans (settings.known_iff.mp hknown))
      rw [base.overlay_of_unknown hunknown, hsame]
  | refused hknown hsettings hfront hrefused =>
      exact base.overlay_of_refused hknown hsettings hfront hrefused
  | tabWidth hknown hsuit hvalue hwidth =>
      obtain ⟨options, hoptions, hoverlay⟩ := base.overlay_of_suit hdistinct hknown hsuit
      obtain rfl := Value.int.inj (hvalue.symm.trans (hoptions .tabWidth).symm)
      obtain ⟨-, hcheck⟩ | ⟨hle, -⟩ | ⟨config, rfl, -⟩ := options.check_cases
      · rw [hoverlay, hcheck]
      · omega
      · exact absurd config.tabWidth_pos (by omega)
  | contextLines hknown hsuit hwidth hle hvalue hcount =>
      obtain ⟨options, hoptions, hoverlay⟩ := base.overlay_of_suit hdistinct hknown hsuit
      obtain rfl := Value.int.inj (hwidth.symm.trans (hoptions .tabWidth).symm)
      obtain rfl := Value.int.inj (hvalue.symm.trans (hoptions .contextLines).symm)
      obtain ⟨hlt, -⟩ | ⟨-, -, hcheck⟩ | ⟨config, rfl, -⟩ := options.check_cases
      · omega
      · rw [hoverlay, hcheck]
      · exact absurd config.contextLines_nonneg (by omega)
  | @resolved config hknown hsuit hvalue =>
      obtain ⟨options, hoptions, hoverlay⟩ := base.overlay_of_suit hdistinct hknown hsuit
      have hsame : ∀ key, options.value key = config.value key := fun key =>
        (hoptions key).trans (hvalue key).symm
      have hwidth : options.tabWidth = config.tabWidth := Value.int.inj (hsame .tabWidth)
      have hcount : options.contextLines = config.contextLines :=
        Value.int.inj (hsame .contextLines)
      have hpos := config.tabWidth_pos
      have hnonneg := config.contextLines_nonneg
      obtain ⟨hlt, -⟩ | ⟨-, hlt, -⟩ | ⟨other, rfl, hcheck⟩ := options.check_cases
      · omega
      · omega
      · rw [hoverlay, hcheck, eq_of_value hsame]

/-- Settings lead to a configuration if they are known and suit and if it has their values. -/
theorem overlay_eq_ok_iff (hdistinct : (Keyed.keys settings).Nodup) {config : Config} :
    base.overlay settings = .ok config ↔ settings.Known ∧ settings.Suit ∧
      ∀ key, config.value key = base.valueUnder settings key := by
  constructor
  · intro hoverlay
    have hjudged := judged_overlay base hdistinct
    rw [hoverlay] at hjudged
    cases hjudged with
    | resolved hknown hsuit hvalue => exact ⟨hknown, hsuit, hvalue⟩
  · rintro ⟨hknown, hsuit, hvalue⟩
    exact overlay_of_judged hdistinct (.resolved hknown hsuit hvalue)

/-! ### Overrides on a base -/

/-- The options below the settings. -/
def Base.options : Base → Options
  | .complete options => options
  | .settings _ => default.toOptions

/-- The settings that are given with the base. -/
def Base.given : Base → Settings
  | .complete _ => []
  | .settings given => given

/-- Overrides are laid over the base together with its own settings. -/
theorem Base.overlay_eq (base : Base) {overrides : Settings}
    (hgiven : (Keyed.keys base.given).Nodup) (hoverrides : (Keyed.keys overrides).Nodup) :
    base.overlay overrides = base.options.overlay (Keyed.updatedWith base.given overrides) := by
  rw [← Keyed.putAll_eq_updatedWith hgiven hoverrides]
  cases base with
  | complete options => rw [overlay, given, Keyed.putAll_nil hoverrides, Base.options]
  | settings given => rfl

section Platform

variable [Platform]

theorem normalize_of_not_mem {base : Base} {overrides : Settings}
    (hname : baseName ∉ Keyed.keys overrides) :
    normalize base overrides = (base.overlay overrides).mapError ConfigError.raised := by
  unfold normalize
  rw [if_neg (mt Keyed.contains_iff.mp hname)]

theorem normalize_reserved (base : Base) {overrides : Settings}
    (hname : baseName ∈ Keyed.keys overrides) :
    normalize base overrides = .error (.abrupt .givenTwice) := by
  unfold normalize
  rw [if_pos (Keyed.contains_iff.mpr hname)]

/-- Overrides have the judgement of the settings that they make up with those of the base. A
problem is reported if the value in its message can be put into words. -/
theorem normalize_judged (base : Base) (overrides : Settings)
    (hgiven : (Keyed.keys base.given).Nodup) (hoverrides : (Keyed.keys overrides).Nodup) :
    (baseName ∈ Keyed.keys overrides →
        normalize base overrides = .error (.abrupt .givenTwice)) ∧
      (baseName ∉ Keyed.keys overrides →
        ∃ verdict,
          (∀ result, Judged base.options (Keyed.updatedWith base.given overrides) result ↔
            result = verdict) ∧
          (∀ config, verdict = .ok config → normalize base overrides = .ok config) ∧
          ∀ cause, verdict = .error cause →
            (cause.Worded → normalize base overrides = .error (.reported cause)) ∧
            (¬cause.Worded → ∃ fault, normalize base overrides = .error (.abrupt fault) ∧
              (fault = .tooDeep ∨ fault = .unprintable))) := by
  refine ⟨normalize_reserved base, fun hname => ?_⟩
  have hdistinct := Keyed.nodup_keys_updatedWith hgiven hoverrides
  have hresult : normalize base overrides = (base.options.overlay
      (Keyed.updatedWith base.given overrides)).mapError ConfigError.raised := by
    rw [normalize_of_not_mem hname, base.overlay_eq hgiven hoverrides]
  refine ⟨base.options.overlay (Keyed.updatedWith base.given overrides), fun result => ?_,
    fun config hconfig => ?_, fun cause hcause => ⟨fun hworded => ?_, fun hlost => ?_⟩⟩
  · refine ⟨fun hjudged => (overlay_of_judged hdistinct hjudged).symm, ?_⟩
    rintro rfl
    exact judged_overlay _ hdistinct
  · rw [hresult, hconfig]
    rfl
  · rw [hresult, hcause, ← ConfigError.raised_of_worded hworded]
    rfl
  · obtain ⟨fault, hfault, hkind⟩ := ConfigError.raised_of_not_worded hlost
    refine ⟨fault, ?_, hkind⟩
    rw [hresult, hcause, ← hfault]
    rfl

end Platform

/-- Settings with a place for the attachment in front of the tab width. -/
def attachedSettings : Settings :=
  [("label_attach", .text "END"), ("tab_width", .int 3)]

/-- Overrides that do not suit: the first by its range, the last by its value. -/
def misdirectedOverrides : Settings :=
  [("tab_width", .int 0), ("index_type", .choice (.offsetUnit .byte)),
    ("label_attach", .text "left")]

/-- An override that has the name of the base. -/
def reservedOverrides : Settings :=
  [("config", .bool true)]

/-- Options out of their ranges, as they are before anything is checked. -/
def unboundedOptions : Options :=
  { Config.default.toOptions with tabWidth := 0, contextLines := -1 }

/-- The last override is judged first, in the place of the setting that it replaces. Without
overrides the ranges of the base are judged. -/
theorem normalize_judged_misdirectedOverrides :
    (Keyed.keys (Base.settings attachedSettings).given).Nodup ∧
      (Keyed.keys misdirectedOverrides).Nodup ∧
      baseName ∉ Keyed.keys misdirectedOverrides ∧
      normalize (.settings attachedSettings) misdirectedOverrides =
        .error (.reported (.notOneOf .labelAttach (.text "left"))) ∧
      normalize (.settings attachedSettings) reservedOverrides = .error (.abrupt .givenTwice) ∧
      normalize (.complete unboundedOptions) [] = .error (.reported (.tabWidth 0)) := by
  have hgiven : (Keyed.keys (Base.settings attachedSettings).given).Nodup := by decide
  have hoverrides : (Keyed.keys misdirectedOverrides).Nodup := by decide
  have hname : baseName ∉ Keyed.keys misdirectedOverrides := by decide
  have hreserved := (normalize_judged (.settings attachedSettings) reservedOverrides hgiven
    (by decide)).1 (by decide)
  refine ⟨hgiven, hoverrides, hname, ?_, hreserved, ?_⟩
  · obtain ⟨verdict, hjudged, -, hreported⟩ :=
      (normalize_judged (.settings attachedSettings) misdirectedOverrides hgiven hoverrides).2 hname
    have hknown : Settings.Known (Keyed.updatedWith attachedSettings misdirectedOverrides) :=
      List.forall_mem_cons.mpr ⟨⟨.labelAttach, rfl⟩, List.forall_mem_cons.mpr
        ⟨⟨.tabWidth, rfl⟩, List.forall_mem_singleton.mpr ⟨.offsetUnit, rfl⟩⟩⟩
    have hrefused : ¬OptionKey.labelAttach.Accepts (.text "left") := by
      rintro (⟨choice, -, hchoice⟩ | hnamed)
      · cases hchoice
      · exact absurd hnamed (by decide)
    have hfirst := (hjudged _).mp (@Judged.refused _ _ [] _ _ _ hknown rfl nofun hrefused)
    apply (hreported _ hfirst.symm).1
    rintro value ⟨⟩
    exact .simple rfl
  · obtain ⟨verdict, hjudged, -, hreported⟩ :=
      (normalize_judged (.complete unboundedOptions) [] List.nodup_nil List.nodup_nil).2
        List.not_mem_nil
    have hfirst := (hjudged _).mp
      (.tabWidth (List.forall_mem_nil _) nofun (show _ = Value.int 0 from rfl) (by decide))
    apply (hreported _ hfirst.symm).1
    rintro value ⟨⟩
    exact .int (fitsDigits_of_isWord (by decide))

/-- There is an unknown name among the settings, but it is not reported. -/
theorem normalize_reservedOverrides :
    (∃ name ∈ Keyed.keys (Keyed.updatedWith attachedSettings reservedOverrides),
        ∀ key : OptionKey, key.name ≠ name) ∧
      ∀ cause, normalize (.settings attachedSettings) reservedOverrides ≠
        .error (.reported cause) := by
  refine ⟨⟨"config", by decide, fun key => by cases key <;> decide⟩, fun cause => ?_⟩
  rw [normalize_reserved _ (by decide)]
  nofun

end Config

end Diagnostics
