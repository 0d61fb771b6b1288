import Diagnostics.Proofs.Config.File
import Diagnostics.Proofs.Text.Shown
import Diagnostics.Proofs.Toml.Texts

/-!
# Messages about configuration files

What is said about a configuration file shows its name, the names that are no options, and values
in their quoted form. Without an escape character in the name of the file and in the keys of its
table of options there is none in the message.
-/

namespace Diagnostics

theorem OptionKey.escapeChar_not_mem_name (key : OptionKey) : escapeChar ∉ key.name.toList := by
  cases key <;> decide

theorem escapeChar_not_mem_intercalate {names : List String}
    (hnames : ∀ name ∈ names, escapeChar ∉ name.toList) :
    escapeChar ∉ (", ".intercalate names).toList := by
  rw [String.toList_intercalate]
  exact escapeChar_not_mem_commaSeparated (List.forall_mem_map.mpr hnames)

theorem OptionKey.escapeChar_not_mem_choiceNames (key : OptionKey) :
    ∀ name ∈ key.choiceNames, escapeChar ∉ name.toList := by
  cases key <;> decide

/-- Unknown names are the only texts that a message shows as they are. -/
theorem ConfigError.escapeChar_not_mem_message {cause : ConfigError}
    (hnames : ∀ names, cause = .unknown names → ∀ name ∈ names, escapeChar ∉ name.toList) :
    escapeChar ∉ cause.message.toList := by
  cases cause with
  | unknown names =>
      exact escapeChar_not_mem_append (by decide)
        (escapeChar_not_mem_intercalate (hnames names rfl))
  | notOneOf key value =>
      have hvalue := escapeChar_not_mem_append (show escapeChar ∉ "invalid value ".toList by decide)
        value.escapeChar_not_mem_toText
      have hkey := escapeChar_not_mem_append
        (escapeChar_not_mem_append hvalue (show escapeChar ∉ " for ".toList by decide))
        key.escapeChar_not_mem_name
      exact escapeChar_not_mem_append (escapeChar_not_mem_append
        (escapeChar_not_mem_append hkey (by decide))
        (escapeChar_not_mem_intercalate key.escapeChar_not_mem_choiceNames)) (by decide)
  | notInteger key value =>
      exact escapeChar_not_mem_append
        (escapeChar_not_mem_append key.escapeChar_not_mem_name (by decide))
        value.escapeChar_not_mem_toText
  | notBoolean key value =>
      exact escapeChar_not_mem_append
        (escapeChar_not_mem_append key.escapeChar_not_mem_name (by decide))
        value.escapeChar_not_mem_toText
  | tabWidth width =>
      exact escapeChar_not_mem_append (by decide)
        (Text.escapeChar_not_mem_toString_int width)
  | contextLines count =>
      exact escapeChar_not_mem_append (by decide)
        (Text.escapeChar_not_mem_toString_int count)

/-! ### Where unknown names come from -/

namespace Options

variable {options : Options} {key : OptionKey} {value : Value} {names : List String}

theorem readBool_ne_unknown : readBool key value ≠ .error (.unknown names) := by
  unfold readBool
  split <;> nofun

theorem readInt_ne_unknown : readInt key value ≠ .error (.unknown names) := by
  unfold readInt
  split <;> nofun

theorem readMember_ne_unknown {members : List (String × α)} {member? : Choice → Option α} :
    readMember members member? key value ≠ .error (.unknown names) := by
  unfold readMember
  dsimp only
  split <;> nofun

theorem set_ne_unknown : options.set key value ≠ .error (.unknown names) := by
  intro hset
  cases key
  case crossGap | compact | underlines | multilineArrows | color | minimiseCrossings |
      enumerateNotes | enumerateHelps =>
    exact readBool_ne_unknown (map_eq_error_iff.mp hset)
  case tabWidth | contextLines => exact readInt_ne_unknown (map_eq_error_iff.mp hset)
  case labelAttach | charSet | offsetUnit | ansiMode =>
    exact readMember_ne_unknown (map_eq_error_iff.mp hset)

theorem setAll_ne_unknown {settings : Settings} :
    options.setAll settings ≠ .error (.unknown names) := by
  induction settings generalizing options with
  | nil => nofun
  | cons setting rest ih =>
      rw [setAll]
      split
      case h_1 => exact ih
      case h_2 =>
        split
        case h_1 => exact ih
        case h_2 cause hcause =>
          rintro ⟨⟩
          exact set_ne_unknown hcause

theorem check_ne_unknown : options.check ≠ .error (.unknown names) := by
  intro hcheck
  unfold check at hcheck
  split at hcheck
  · split at hcheck <;> cases hcheck
  · cases hcheck

/-- Names that are unknown are names of the settings. -/
theorem subset_keys_of_overlay {settings : Settings}
    (hoverlay : options.overlay settings = .error (.unknown names)) :
    names ⊆ Keyed.keys settings := by
  unfold overlay at hoverlay
  split at hoverlay
  case h_1 =>
    split at hoverlay
    case h_1 => exact absurd hoverlay check_ne_unknown
    case h_2 cause hcause =>
      obtain rfl := Except.error.inj hoverlay
      exact absurd hcause setAll_ne_unknown
  case h_2 =>
    obtain rfl := ConfigError.unknown.inj (Except.error.inj hoverlay)
    intro name hname
    exact List.mem_of_mem_filter (List.mem_mergeSort.mp hname)

theorem escapeChar_not_mem_message_of_overlay {settings : Settings} {cause : ConfigError}
    (hkeys : ∀ name ∈ Keyed.keys settings, escapeChar ∉ name.toList)
    (hoverlay : options.overlay settings = .error cause) :
    escapeChar ∉ cause.message.toList := by
  apply ConfigError.escapeChar_not_mem_message
  rintro names rfl name hname
  exact hkeys name (subset_keys_of_overlay hoverlay hname)

end Options

section Platform

variable [Platform]

theorem ConfigError.escapeFree_raised {cause : ConfigError}
    (hmessage : escapeChar ∉ cause.message.toList) :
    cause.raised.EscapeFree ConfigError.message := by
  rw [raised]
  cases cause.value?.bind (Value.shownFault? Platform.showingRoom) with
  | none => exact hmessage
  | some fault => trivial

namespace Config

theorem escapeFree_of_ofEntries {entries : Toml.Table} {failure : Failure ConfigFileError}
    (hkeys : ∀ entry ∈ entries, escapeChar ∉ entry.1.toList)
    (hread : ofEntries entries = .error failure) :
    failure.EscapeFree ConfigFileError.message := by
  obtain ⟨cause, hcause, rfl⟩ := mapError_eq_error_iff.mp hread
  have hnames : ∀ name ∈ Keyed.keys (Toml.Table.toSettings entries), escapeChar ∉ name.toList := by
    rw [Toml.Table.keys_toSettings]
    exact List.forall_mem_map.mpr hkeys
  have hmessage := Options.escapeChar_not_mem_message_of_overlay hnames hcause
  exact (ConfigError.escapeFree_raised hmessage).map fun _ => rfl

theorem escapeFree_of_ofDocument {name : String} {document : Toml.Table}
    {failure : Failure ConfigFileError} (hname : escapeChar ∉ name.toList)
    (hdocument : Toml.Value.EscapeFree (.table document))
    (hread : ofDocument name document = .error failure) :
    failure.EscapeFree ConfigFileError.message := by
  unfold ofDocument at hread
  split at hread
  case h_1 => exact escapeFree_of_ofEntries (List.forall_mem_nil _) hread
  case h_2 entries hentries =>
    refine escapeFree_of_ofEntries (fun entry hentry => ?_) hread
    exact ((hdocument.find? hentries).entry hentry).1
  case h_3 =>
    obtain rfl := Except.error.inj hread
    exact escapeChar_not_mem_append hname (by decide)

theorem escapeFree_of_ofFile {name : String} {bytes : List UInt8}
    {failure : Failure ConfigFileError} (hname : escapeChar ∉ name.toList)
    (hbytes : Toml.EscapeFree bytes) (hread : ofFile name bytes = .error failure) :
    failure.EscapeFree ConfigFileError.message := by
  unfold ofFile at hread
  split at hread
  case h_1 document hdocument =>
    exact escapeFree_of_ofDocument hname (hbytes.table hdocument) hread
  case h_2 cause hcause =>
    obtain rfl := Except.error.inj hread
    have hinvalid : escapeChar ∉
        (ConfigFileError.invalid name (Platform.documentComplaint bytes)).message.toList :=
      escapeChar_not_mem_append (escapeChar_not_mem_append hname (by decide))
        (Platform.escapeChar_not_mem_documentComplaint bytes)
    exact cause.escapeFree_failure hinvalid

end Config

end Platform

end Diagnostics
