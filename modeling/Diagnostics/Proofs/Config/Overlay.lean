import Diagnostics.Config.Overlay

/-!
# Settings that are read

If all names are known, laying settings over options gives these their values and checks
the result. Nothing is checked again that was a configuration before:
no settings change nothing.
-/

namespace Diagnostics

theorem unknownNames_eq_nil_iff (settings : Settings) :
    unknownNames settings = [] ↔
      ∀ name ∈ Keyed.keys settings, ∃ key, OptionKey.ofName? name = some key := by
  rw [unknownNames, ← List.length_eq_zero_iff, List.length_mergeSort, List.length_eq_zero_iff,
    List.filter_eq_nil_iff]
  simp [Option.ne_none_iff_exists']

namespace Options

theorem check_toOptions (config : Config) : config.toOptions.check = .ok config := by
  simp only [check, config.tabWidth_pos, config.contextLines_nonneg, dite_true]

theorem overlay_of_known (base : Options) {settings : Settings}
    (hknown : ∀ name ∈ Keyed.keys settings, ∃ key, OptionKey.ofName? name = some key) :
    base.overlay settings = (base.setAll settings).bind check := by
  rw [overlay, (unknownNames_eq_nil_iff settings).mpr hknown]
  cases base.setAll settings <;> rfl

end Options

theorem Config.overlay_nil (config : Config) : config.overlay [] = .ok config := by
  rw [Options.overlay_of_known _ (List.forall_mem_nil _)]
  exact Options.check_toOptions config

end Diagnostics
