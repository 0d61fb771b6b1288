import Diagnostics.Config.File
import Diagnostics.Proofs.Config.Layered
import Diagnostics.Proofs.Toml.Breaks
import Diagnostics.Proofs.Toml.Distinct
import Diagnostics.Proofs.Wording

/-!
# Options of configuration files

A configuration file that is read gives each option the value that its table of options
has under the name of the option, and the default where the table has none.
-/

namespace Diagnostics

/-- The value that a document has for an option. -/
def Toml.Table.option? (document : Toml.Table) (key : OptionKey) :
    Option Diagnostics.Value :=
  match Keyed.find? document "render" with
  | some (.table entries) => (Keyed.find? entries key.name).map Toml.Value.toOption
  | _ => none

theorem Toml.Table.find?_toSettings (table : Toml.Table) (name : String) :
    Keyed.find? table.toSettings name = (Keyed.find? table name).map Toml.Value.toOption := by
  induction table with
  | nil => rfl
  | cons entry rest ih =>
      rw [toSettings, List.map_cons, Keyed.find?, Keyed.find?]
      split
      · rfl
      · exact ih

theorem Toml.Table.keys_toSettings (table : Toml.Table) :
    Keyed.keys table.toSettings = Keyed.keys table := by
  rw [Keyed.keys, toSettings, List.map_map]
  rfl

namespace Config

variable [Platform]

theorem value_of_ofDocument {path : String} {document : Toml.Table} {config : Config}
    (hdistinct : document.Distinct) (hread : ofDocument path document = .ok config)
    (key : OptionKey) :
    config.value key = ((document.option? key).map Value.settled).getD (default.value key) := by
  rw [Toml.Table.option?]
  unfold ofDocument at hread
  split at hread
  case h_1 hnone =>
    have hkeys : (Keyed.keys ([] : Settings)).Nodup := List.nodup_nil
    rw [hnone]
    exact Options.value_of_overlay hkeys (mapError_eq_ok_iff.mp hread) key
  case h_2 entries hentries =>
    have hkeys : (Keyed.keys (Toml.Table.toSettings entries)).Nodup := by
      rw [Toml.Table.keys_toSettings]
      exact Toml.Table.Distinct.nodup_keys (hdistinct.find? hentries)
    rw [hentries, Options.value_of_overlay hkeys (mapError_eq_ok_iff.mp hread) key,
      Toml.Table.find?_toSettings]
  case h_3 => cases hread

theorem value_of_ofFile {path : String} {bytes : List UInt8} {config : Config}
    (hread : ofFile path bytes = .ok config) :
    ∃ document, Toml.read bytes = .ok document ∧ ∀ key, config.value key =
      ((document.option? key).map Value.settled).getD (default.value key) := by
  unfold ofFile at hread
  split at hread
  case h_1 document hdocument =>
    exact ⟨document, hdocument, value_of_ofDocument (Toml.distinct_of_read hdocument) hread⟩
  case h_2 => cases hread

/-- Reading the bytes of a configuration file breaks off. -/
inductive Breaks (bytes : List UInt8) : Fault → Prop
  /-- The bytes are no text, or the document is refused without a message. -/
  | reading {fault} (hbreaks : Toml.Breaks bytes fault) : Breaks bytes fault
  /-- A value does not suit its option, and it cannot be put into words. -/
  | shown {document entries cause value fault} (hread : Toml.read bytes = .ok document)
      (hrender : Keyed.find? document "render" = some (.table entries))
      (hrefused : ofSettings (Toml.Table.toSettings entries) = .error cause)
      (hvalue : cause.value? = some value)
      (hlost : value.shownFault? Platform.showingRoom = some fault) : Breaks bytes fault

theorem ofDocument_eq_abrupt_iff {path : String} {document : Toml.Table} {fault : Fault} :
    ofDocument path document = .error (.abrupt fault) ↔
      ∃ entries cause, Keyed.find? document "render" = some (.table entries) ∧
        ofSettings (Toml.Table.toSettings entries) = .error cause ∧
        cause.raised = .abrupt fault := by
  have hdefault : ofSettings [] = .ok default := default.overlay_nil
  have hmap : ∀ raised : Failure ConfigError,
      raised.map ConfigFileError.settings = .abrupt fault ↔ raised = .abrupt fault := by
    intro raised
    cases raised <;> simp [Failure.map]
  unfold ofDocument ofEntries
  split
  case h_1 hnone =>
    have htable : Toml.Table.toSettings [] = [] := rfl
    simp [htable, hdefault, hnone, mapError_eq_error_iff]
  case h_2 entries hentries => simp [hentries, mapError_eq_error_iff, hmap]
  case h_3 value hother hvalue =>
    have hnot : ∀ entries, value ≠ .table entries := hother
    simp [hvalue, hnot]

theorem ofFile_eq_abrupt_iff {path : String} {bytes : List UInt8} {fault : Fault} :
    ofFile path bytes = .error (.abrupt fault) ↔ Breaks bytes fault := by
  unfold ofFile
  constructor
  · intro hread
    split at hread
    case h_1 document hdocument =>
      obtain ⟨entries, cause, hrender, hrefused, hraised⟩ := ofDocument_eq_abrupt_iff.mp hread
      obtain ⟨value, hvalue, hlost⟩ := ConfigError.raised_eq_abrupt_iff.mp hraised
      exact .shown hdocument hrender hrefused hvalue hlost
    case h_2 cause hcause =>
      exact .reading ((Toml.failure_eq_abrupt_iff hcause).mp (Except.error.inj hread))
  · intro hbreaks
    cases hbreaks with
    | reading hbreaks =>
        obtain ⟨cause, hcause⟩ := hbreaks.exists_read
        rw [hcause]
        exact congrArg Except.error ((Toml.failure_eq_abrupt_iff hcause).mpr hbreaks)
    | shown hread hrender hrefused hvalue hlost =>
        rw [hread]
        exact ofDocument_eq_abrupt_iff.mpr ⟨_, _, hrender, hrefused,
          ConfigError.raised_eq_abrupt_iff.mpr ⟨_, hvalue, hlost⟩⟩

end Config

end Diagnostics
