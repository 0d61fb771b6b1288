import Diagnostics.Proofs.Config.Verdict

/-!
# Laws of overlaying

A configuration on which nothing is laid stays as it is. Settings that write it out in full lead
to it, whatever the letters of its names and the order of the settings. Settings on top of settings
lead to the same configuration whether they are laid down one after the other or put together
before. The order of settings decides only which problem is reported.
-/

namespace Diagnostics

open Text

/-- The value, or a text with the same letters in any case. -/
inductive Value.Spells : Value → Value → Prop
  | same (value : Value) : Spells value value
  | letters {text name : String} (hsame : SameLetters text name) : Spells (.text text) (.text name)

theorem OptionKey.mem_all (key : OptionKey) : key ∈ all := by
  cases key <;> decide

/-- The names of choices are written in small letters. -/
theorem OptionKey.lower_of_mem_choiceNames (key : OptionKey) :
    ∀ name ∈ key.choiceNames, IsAscii name ∧ lower name = name := by
  have hletters : ∀ name ∈ key.choiceNames, IsAscii name ∧
      name.toList.map Char.toLower = name.toList := by
    cases key <;> decide
  intro name hname
  obtain ⟨hascii, hsmall⟩ := hletters name hname
  refine ⟨hascii, ?_⟩
  rw [lower_of_ascii hascii, hsmall, String.ofList_toList]

/-- A choice has a name, a number is an integer, and a flag is a truth value. -/
theorem Options.value_cases (options : Options) (key : OptionKey) :
    (key.kind = .choice ∧ ∃ name ∈ key.choiceNames, options.value key = .text name) ∨
      (key.kind = .number ∧ ∃ n, options.value key = .int n) ∨
      (key.kind = .flag ∧ ∃ truth, options.value key = .bool truth) := by
  cases key
  case crossGap | compact | underlines | multilineArrows | color | minimiseCrossings |
      enumerateNotes | enumerateHelps => exact .inr (.inr ⟨rfl, _, rfl⟩)
  case tabWidth | contextLines => exact .inr (.inl ⟨rfl, _, rfl⟩)
  case labelAttach =>
    refine .inl ⟨rfl, options.labelAttach.name, ?_, rfl⟩
    cases options.labelAttach <;> decide
  case charSet =>
    refine .inl ⟨rfl, options.charSet.name, ?_, rfl⟩
    cases options.charSet <;> decide
  case offsetUnit =>
    refine .inl ⟨rfl, options.offsetUnit.name, ?_, rfl⟩
    cases options.offsetUnit <;> decide
  case ansiMode =>
    refine .inl ⟨rfl, options.ansiMode.name, ?_, rfl⟩
    cases options.ansiMode <;> decide

/-- The value of an option suits it and is kept, however it is spelled. -/
theorem Value.Spells.accepted {options : Options} {key : OptionKey} {value : Value}
    (hspells : value.Spells (options.value key)) :
    key.Accepts value ∧ value.settled = options.value key := by
  obtain ⟨hkind, name, hname, hvalue⟩ | ⟨hkind, n, hvalue⟩ | ⟨hkind, truth, hvalue⟩ :=
    options.value_cases key
  · obtain ⟨hascii, hsmall⟩ := key.lower_of_mem_choiceNames name hname
    have hletters : ∃ text, value = .text text ∧ lower text = name := by
      rw [hvalue] at hspells
      cases hspells with
      | same => exact ⟨name, rfl, hsmall⟩
      | letters hsame => exact ⟨_, rfl, (lower_of_sameLetters hsame hascii).trans hsmall⟩
    obtain ⟨text, rfl, hlower⟩ := hletters
    rw [hvalue, OptionKey.Accepts, hkind, Value.settled, hlower]
    refine ⟨.inr ?_, rfl⟩
    rwa [Value.plain, hlower]
  · rw [hvalue] at hspells ⊢
    cases hspells
    rw [OptionKey.Accepts, hkind]
    exact ⟨⟨n, rfl⟩, rfl⟩
  · rw [hvalue] at hspells ⊢
    cases hspells
    rw [OptionKey.Accepts, hkind]
    exact ⟨⟨truth, rfl⟩, rfl⟩

namespace Config

variable {base : Options} {config : Config} {lower upper settings : Settings}

/-- Settings that spell out a configuration lead to it on any base. -/
theorem overlay_of_spells
    (hkeys : (Keyed.keys settings).Perm (OptionKey.all.map OptionKey.name))
    (hspells : ∀ (key : OptionKey) value, (key.name, value) ∈ settings →
      value.Spells (config.value key)) : base.overlay settings = .ok config := by
  have hdistinct : (Keyed.keys settings).Nodup := hkeys.nodup_iff.mpr (by decide)
  refine (overlay_eq_ok_iff hdistinct).mpr ⟨fun name hname => ?_, fun key value hmem => ?_,
    fun key => ?_⟩
  · obtain ⟨key, -, hkey⟩ := List.mem_map.mp (hkeys.mem_iff.mp hname)
    exact ⟨key, hkey⟩
  · exact (hspells key value hmem).accepted.1
  · have hname : key.name ∈ Keyed.keys settings :=
      hkeys.mem_iff.mpr (List.mem_map_of_mem key.mem_all)
    obtain ⟨value, hfind⟩ := Option.ne_none_iff_exists'.mp
      (mt Keyed.find?_eq_none_iff.mp (not_not.mpr hname))
    have hsettled := (hspells key value (Keyed.mem_of_find? hfind)).accepted.2
    rw [Options.valueUnder, hfind, Option.map_some, Option.getD_some, hsettled]

/-! ### Layers -/

theorem known_updatedWith_iff (hlower : (Keyed.keys lower).Nodup)
    (hupper : (Keyed.keys upper).Nodup) :
    Settings.Known (Keyed.updatedWith lower upper) ↔ lower.Known ∧ upper.Known := by
  simp only [Settings.Known, Keyed.mem_keys_updatedWith hlower hupper, or_imp, forall_and]

theorem suit_iff (hdistinct : (Keyed.keys settings).Nodup) :
    settings.Suit ↔ ∀ (key : OptionKey) (value : Value),
      Keyed.find? settings key.name = some value → key.Accepts value := by
  simp only [Settings.Suit, Keyed.find?_eq_some_iff hdistinct]

/-- What is covered by the upper settings suits if these do. -/
theorem suit_updatedWith_iff (hlower : (Keyed.keys lower).Nodup)
    (hupper : (Keyed.keys upper).Nodup) (hsuit : lower.Suit) :
    Settings.Suit (Keyed.updatedWith lower upper) ↔ upper.Suit := by
  rw [suit_iff (Keyed.nodup_keys_updatedWith hlower hupper), suit_iff hupper]
  simp only [Keyed.find?_updatedWith hlower hupper, Option.or_eq_some_iff]
  constructor
  · intro hall key value hfind
    exact hall key value (.inl hfind)
  · rintro hall key value (hfind | ⟨-, hfind⟩)
    · exact hall key value hfind
    · exact (suit_iff hlower).mp hsuit key value hfind

theorem valueUnder_updatedWith (hlower : (Keyed.keys lower).Nodup)
    (hupper : (Keyed.keys upper).Nodup)
    (hvalue : ∀ key, config.value key = base.valueUnder lower key) (key : OptionKey) :
    base.valueUnder (Keyed.updatedWith lower upper) key = config.valueUnder upper key := by
  rw [Options.valueUnder, Options.valueUnder, Keyed.find?_updatedWith hlower hupper, hvalue,
    Options.valueUnder]
  cases Keyed.find? upper key.name <;> rfl

/-- Settings may be laid on settings before these are laid on the base. -/
theorem overlay_updatedWith (hlower : (Keyed.keys lower).Nodup)
    (hupper : (Keyed.keys upper).Nodup) (hconfig : base.overlay lower = .ok config)
    {result : Config} :
    base.overlay (Keyed.updatedWith lower upper) = .ok result ↔
      config.overlay upper = .ok result := by
  obtain ⟨hknown, hsuit, hvalue⟩ := (overlay_eq_ok_iff hlower).mp hconfig
  rw [overlay_eq_ok_iff (Keyed.nodup_keys_updatedWith hlower hupper), overlay_eq_ok_iff hupper,
    known_updatedWith_iff hlower hupper, and_iff_right hknown,
    suit_updatedWith_iff hlower hupper hsuit]
  simp only [valueUnder_updatedWith hlower hupper hvalue]

/-- The order of settings does not matter to the configuration that they lead to. -/
theorem overlay_of_perm {other : Settings} (hperm : settings.Perm other)
    (hdistinct : (Keyed.keys settings).Nodup) :
    base.overlay settings = .ok config ↔ base.overlay other = .ok config := by
  have hkeys : (Keyed.keys settings).Perm (Keyed.keys other) := hperm.map Prod.fst
  rw [overlay_eq_ok_iff hdistinct, overlay_eq_ok_iff (hkeys.nodup_iff.mp hdistinct)]
  simp only [Settings.Known, Settings.Suit, hkeys.mem_iff, hperm.mem_iff, Options.valueUnder,
    Keyed.find?_of_perm hperm hdistinct]

/-! ### What an error shows -/

/-- A problem with settings that lie on a configuration is a problem with one of them, whether
the configuration is overlaid itself or the settings that lead to it. -/
theorem mem_of_value? (hlower : (Keyed.keys lower).Nodup) (hupper : (Keyed.keys upper).Nodup)
    (hconfig : base.overlay lower = .ok config) {cause : ConfigError}
    (hoverlay : base.overlay (Keyed.updatedWith lower upper) = .error cause) {value : Value}
    (hvalue : cause.value? = some value) : ∃ entry ∈ upper, entry.2 = value := by
  have hdistinct := Keyed.nodup_keys_updatedWith hlower hupper
  obtain ⟨-, hsuits, hvalues⟩ := (overlay_eq_ok_iff hlower).mp hconfig
  have hset : ∀ {key : OptionKey} {n : Int},
      base.valueUnder (Keyed.updatedWith lower upper) key = .int n →
      config.value key ≠ .int n → ∃ entry ∈ upper, entry.2 = .int n := by
    intro key n hunder hbelow
    rw [valueUnder_updatedWith hlower hupper hvalues, Options.valueUnder] at hunder
    cases hfind : Keyed.find? upper key.name with
    | none =>
        rw [hfind] at hunder
        exact absurd hunder hbelow
    | some given =>
        rw [hfind] at hunder
        exact ⟨_, Keyed.mem_of_find? hfind, Value.eq_int_of_settled hunder⟩
  have hjudged := judged_overlay base hdistinct
  rw [hoverlay] at hjudged
  cases hjudged with
  | unknown => cases hvalue
  | @refused front back key refused hknown hsettings hfront hrefused =>
      obtain rfl : refused = value := by
        rw [OptionKey.refusal] at hvalue
        split at hvalue <;> exact Option.some.inj hvalue
      have hmem : (key.name, refused) ∈ Keyed.updatedWith lower upper :=
        hsettings ▸ List.mem_append_right _ List.mem_cons_self
      rw [← Keyed.find?_eq_some_iff hdistinct, Keyed.find?_updatedWith hlower hupper,
        Option.or_eq_some_iff] at hmem
      obtain hfind | ⟨-, hfind⟩ := hmem
      · exact ⟨_, Keyed.mem_of_find? hfind, rfl⟩
      · exact absurd ((suit_iff hlower).mp hsuits key refused hfind) hrefused
  | tabWidth hknown hsuit hwidth hlt =>
      obtain rfl := Option.some.inj hvalue
      refine hset hwidth fun hbelow => ?_
      have hpos := config.tabWidth_pos
      have hsame : config.tabWidth = _ := Value.int.inj hbelow
      omega
  | contextLines hknown hsuit hwidth hle hcount hlt =>
      obtain rfl := Option.some.inj hvalue
      refine hset hcount fun hbelow => ?_
      have hnonneg := config.contextLines_nonneg
      have hsame : config.contextLines = _ := Value.int.inj hbelow
      omega

/-! ### Results of overlaying -/

/-- Both results are the same configuration, or an error is raised for both. -/
def Alike (raise : ConfigError → Failure ConfigError)
    (left right : Except (Failure ConfigError) Config) : Prop :=
  (∃ config, left = .ok config ∧ right = .ok config) ∨
    (∃ cause, left = .error (raise cause)) ∧ ∃ cause, right = .error (raise cause)

theorem alike_of_iff {raise : ConfigError → Failure ConfigError}
    {left right : Except ConfigError Config}
    (hsame : ∀ config, left = .ok config ↔ right = .ok config) :
    Alike raise (left.mapError raise) (right.mapError raise) := by
  cases left with
  | ok config =>
      rw [(hsame config).mp rfl]
      exact .inl ⟨config, rfl, rfl⟩
  | error cause =>
      cases right with
      | ok config => cases (hsame config).mpr rfl
      | error other => exact .inr ⟨⟨cause, rfl⟩, ⟨other, rfl⟩⟩

section Platform

variable [Platform]

/-- Errors that can be put into words are reported. -/
theorem mapError_raised {result : Except ConfigError Config}
    (hworded : ∀ cause, result = .error cause → cause.Worded) :
    result.mapError ConfigError.raised = result.mapError .reported := by
  cases result with
  | ok config => rfl
  | error cause =>
      exact congrArg Except.error (ConfigError.raised_of_worded (hworded cause rfl))

theorem normalize_settings_nil (settings : Settings) :
    normalize (.settings settings) [] =
      (default.overlay settings).mapError ConfigError.raised := rfl

theorem normalize_of_perm {lower' upper' : Settings} (hlower : lower.Perm lower')
    (hupper : upper.Perm upper') (hdistinct : (Keyed.keys lower).Nodup)
    (hdistinct' : (Keyed.keys upper).Nodup) :
    normalize (.settings lower) upper = .ok config ↔
      normalize (.settings lower') upper' = .ok config := by
  have hkeys : (Keyed.keys lower).Perm (Keyed.keys lower') := hlower.map Prod.fst
  have hkeys' : (Keyed.keys upper).Perm (Keyed.keys upper') := hupper.map Prod.fst
  by_cases hname : baseName ∈ Keyed.keys upper
  · rw [normalize_reserved _ hname, normalize_reserved _ (hkeys'.mem_iff.mp hname)]
  · rw [normalize_of_not_mem hname, normalize_of_not_mem (mt hkeys'.mem_iff.mpr hname),
      Base.overlay_eq (.settings lower) hdistinct hdistinct',
      Base.overlay_eq (.settings lower') (hkeys.nodup_iff.mp hdistinct)
        (hkeys'.nodup_iff.mp hdistinct'),
      mapError_eq_ok_iff, mapError_eq_ok_iff]
    exact overlay_of_perm (Keyed.updatedWith_perm hlower hupper hdistinct')
      (Keyed.nodup_keys_updatedWith hdistinct hdistinct')

/-- Layers of settings lead to the same configuration or to errors, which are reported as long as
what is laid on top can be put into words. -/
theorem alike_of_layers (hlower : (Keyed.keys lower).Nodup) (hupper : (Keyed.keys upper).Nodup)
    (hconfig : normalize (.settings lower) [] = .ok config)
    (hname : baseName ∉ Keyed.keys upper) :
    Alike ConfigError.raised (normalize (.complete config.toOptions) upper)
        (normalize (.settings (Keyed.updatedWith lower upper)) []) ∧
      ((∀ entry ∈ upper, entry.2.Showable Platform.showingRoom) →
        Alike .reported (normalize (.complete config.toOptions) upper)
          (normalize (.settings (Keyed.updatedWith lower upper)) [])) := by
  rw [normalize_settings_nil, mapError_eq_ok_iff] at hconfig
  have hsame : ∀ result, config.toOptions.overlay upper = .ok result ↔
      default.overlay (Keyed.updatedWith lower upper) = .ok result :=
    fun _ => (overlay_updatedWith hlower hupper hconfig).symm
  have hcomplete : Base.overlay (.complete config.toOptions) upper = config.overlay upper := rfl
  rw [normalize_of_not_mem hname, normalize_settings_nil, hcomplete]
  refine ⟨alike_of_iff hsame, fun hshown => ?_⟩
  rw [mapError_raised, mapError_raised]
  · exact alike_of_iff hsame
  · intro cause hcause value hvalue
    obtain ⟨entry, hentry, rfl⟩ := mem_of_value? hlower hupper hconfig hcause hvalue
    exact hshown entry hentry
  · intro cause hcause value hvalue
    have hnone : (Keyed.keys ([] : Settings)).Nodup := List.nodup_nil
    rw [← Keyed.updatedWith_nil_left upper] at hcause
    obtain ⟨entry, hentry, rfl⟩ := mem_of_value? hnone hupper config.overlay_nil hcause hvalue
    exact hshown entry hentry

/-- Overlaying nothing changes nothing; a configuration can be spelled out in any order and in
letters of any case; two layers of settings may be put together; and the order of settings is
not seen in the configuration. -/
theorem normalize_laws :
    (∀ config : Config, normalize (.complete config.toOptions) [] = .ok config) ∧
      (∀ (config : Config) (settings : Settings),
        (Keyed.keys settings).Perm (OptionKey.all.map OptionKey.name) →
        (∀ (key : OptionKey) (value : Value), (key.name, value) ∈ settings →
          value.Spells (config.value key)) →
        normalize (.settings settings) [] = .ok config) ∧
      (∀ (lower upper : Settings) (config : Config), (Keyed.keys lower).Nodup →
        (Keyed.keys upper).Nodup → normalize (.settings lower) [] = .ok config →
        (baseName ∈ Keyed.keys upper →
          normalize (.complete config.toOptions) upper = .error (.abrupt .givenTwice)) ∧
        (baseName ∉ Keyed.keys upper →
          Alike ConfigError.raised (normalize (.complete config.toOptions) upper)
              (normalize (.settings (Keyed.updatedWith lower upper)) []) ∧
            ((∀ entry ∈ upper, entry.2.Showable Platform.showingRoom) →
              Alike .reported (normalize (.complete config.toOptions) upper)
                (normalize (.settings (Keyed.updatedWith lower upper)) [])))) ∧
      ∀ lower lower' upper upper' : Settings, lower.Perm lower' → upper.Perm upper' →
        (Keyed.keys lower).Nodup → (Keyed.keys upper).Nodup → ∀ config,
        (normalize (.settings lower) upper = .ok config ↔
          normalize (.settings lower') upper' = .ok config) := by
  refine ⟨fun config => ?_, fun config settings hkeys hspells => ?_,
    fun lower upper config hlower hupper hconfig =>
      ⟨normalize_reserved _, alike_of_layers hlower hupper hconfig⟩,
    fun _ _ _ _ hlower hupper hdistinct hdistinct' _ =>
      normalize_of_perm hlower hupper hdistinct hdistinct'⟩
  · have hcomplete : Base.overlay (.complete config.toOptions) [] = config.overlay [] := rfl
    rw [normalize_of_not_mem List.not_mem_nil, hcomplete, config.overlay_nil]
    rfl
  · rw [normalize_settings_nil, overlay_of_spells hkeys hspells]
    rfl

end Platform

/-- The value with its letters in capitals. -/
def loud : Value → Value
  | .text text => .text (String.ofList (text.toList.map Char.toUpper))
  | value => value

def attachedConfig : Config :=
  { Config.default with labelAttach := .stop, tabWidth := 3, tabWidth_pos := by decide }

/-- All options, the last first and in capitals. -/
def loudSettings : Settings :=
  OptionKey.all.reverse.map fun key => (key.name, loud (attachedConfig.value key))

theorem normalize_attachedSettings :
    normalize (.settings attachedSettings) [] = .ok attachedConfig := by
  have hknown : Settings.Known attachedSettings := List.forall_mem_cons.mpr
    ⟨⟨.labelAttach, rfl⟩, List.forall_mem_singleton.mpr ⟨.tabWidth, rfl⟩⟩
  have hsuit : Settings.Suit attachedSettings := by
    intro key value hmem
    rcases List.mem_cons.mp hmem with heq | hmem
    · obtain ⟨hname, rfl⟩ := Prod.mk.inj heq
      obtain rfl : key = .labelAttach := OptionKey.name_injective hname
      exact .inr (by decide)
    · obtain ⟨hname, rfl⟩ := Prod.mk.inj (List.mem_singleton.mp hmem)
      obtain rfl : key = .tabWidth := OptionKey.name_injective hname
      exact ⟨3, rfl⟩
  have hvalue : ∀ key, attachedConfig.value key = default.valueUnder attachedSettings key := by
    intro key
    cases key <;> rfl
  rw [normalize_settings_nil, (overlay_eq_ok_iff (by decide)).mpr ⟨hknown, hsuit, hvalue⟩]
  rfl

theorem normalize_laws_loudSettings :
    ((Keyed.keys loudSettings).Perm (OptionKey.all.map OptionKey.name) ∧
        normalize (.settings loudSettings) [] = .ok attachedConfig) ∧
      (normalize (.settings attachedSettings) [] = .ok attachedConfig ∧
        Alike .reported (normalize (.complete attachedConfig.toOptions) misdirectedOverrides)
          (normalize (.settings (Keyed.updatedWith attachedSettings misdirectedOverrides)) [])) ∧
      normalize (.complete attachedConfig.toOptions) reservedOverrides =
        .error (.abrupt .givenTwice) ∧
      (normalize (.settings attachedSettings) [] = .ok attachedConfig ↔
        normalize (.settings attachedSettings.reverse) [] = .ok attachedConfig) := by
  have hkeys : (Keyed.keys loudSettings).Perm (OptionKey.all.map OptionKey.name) := by decide
  have hspells : ∀ (key : OptionKey) (value : Value), (key.name, value) ∈ loudSettings →
      value.Spells (attachedConfig.value key) := by
    intro key value hmem
    obtain ⟨other, -, heq⟩ := List.mem_map.mp hmem
    obtain ⟨hname, rfl⟩ := Prod.mk.inj heq
    obtain rfl := OptionKey.name_injective hname
    cases other
    case labelAttach | charSet | offsetUnit | ansiMode =>
      exact .letters (show List.map _ _ = List.map _ _ by decide)
    all_goals exact .same _
  have hconfig := normalize_attachedSettings
  have hdistinct : (Keyed.keys attachedSettings).Nodup := by decide
  obtain ⟨-, hspelled, hlayers, horder⟩ := normalize_laws
  refine ⟨⟨hkeys, hspelled _ _ hkeys hspells⟩, ⟨hconfig, ?_⟩, ?_, ?_⟩
  · apply ((hlayers _ misdirectedOverrides _ hdistinct (by decide) hconfig).2 (by decide)).2
    exact List.forall_mem_cons.mpr ⟨.int (fitsDigits_of_isWord (by decide)),
      List.forall_mem_cons.mpr ⟨.simple rfl, List.forall_mem_singleton.mpr (.simple rfl)⟩⟩
  · exact (hlayers _ reservedOverrides _ hdistinct (by decide) hconfig).1 (by decide)
  · exact horder _ _ [] [] (List.reverse_perm _).symm .nil hdistinct List.nodup_nil _

/-- An override with the name of the base cannot be laid over a configuration, and as one of
the settings it is an unknown name. -/
theorem not_alike_reservedOverrides :
    normalize (.settings attachedSettings) [] = .ok attachedConfig ∧
      ¬Alike .reported (normalize (.complete attachedConfig.toOptions) reservedOverrides)
        (normalize (.settings (Keyed.updatedWith attachedSettings reservedOverrides)) []) := by
  refine ⟨normalize_attachedSettings, ?_⟩
  rw [normalize_reserved _ (by decide)]
  rintro (⟨config, hconfig, -⟩ | ⟨⟨cause, hcause⟩, -⟩)
  · cases hconfig
  · cases hcause

end Config

end Diagnostics
