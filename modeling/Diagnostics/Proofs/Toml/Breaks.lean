import Diagnostics.Proofs.Toml.Equality

/-!
# Files on which reading breaks off

Bytes that are no document are complained about, but not all of them: those that are no text, and
documents that are nested too deep or hold a decimal integer with too many digits, end the reading
without a complaint.
-/

namespace Diagnostics.Toml

variable [Platform]

/-- Reading the bytes of a file breaks off. -/
inductive Breaks (bytes : List UInt8) : Fault → Prop
  /-- The bytes are no text. -/
  | encoding {cause} (hdecode : Utf8.decode bytes = .error cause) : Breaks bytes .undecodable
  /-- The values of the document are nested too deep. -/
  | nesting (hread : read bytes = .error (.refused .tooDeep)) : Breaks bytes .tooDeep
  /-- The document holds a decimal integer with too many digits. -/
  | digits {count} (hread : read bytes = .error (.refused (.overlong count))) :
      Breaks bytes (.overlong count)

variable {ε : Type} {invalid : ε} {bytes : List UInt8} {fault : Fault}

theorem failure_eq_abrupt_iff {cause : ReadError} (hread : read bytes = .error cause) :
    cause.failure invalid = .abrupt fault ↔ Breaks bytes fault := by
  constructor
  · intro hfailure
    cases cause with
    | encoding cause =>
        obtain rfl := Failure.abrupt.inj hfailure
        exact .encoding (read_eq_encoding_iff.mp hread)
    | refused refusal =>
        cases refusal with
        | invalid => cases hfailure
        | tooDeep =>
            obtain rfl := Failure.abrupt.inj hfailure
            exact .nesting hread
        | overlong count =>
            obtain rfl := Failure.abrupt.inj hfailure
            exact .digits hread
  · intro hbreaks
    cases hbreaks with
    | encoding hdecode =>
        rw [read_eq_encoding_iff.mpr hdecode] at hread
        cases hread
        rfl
    | nesting htooDeep =>
        rw [htooDeep] at hread
        cases hread
        rfl
    | digits hoverlong =>
        rw [hoverlong] at hread
        cases hread
        rfl

theorem Breaks.exists_read (hbreaks : Breaks bytes fault) : ∃ cause, read bytes = .error cause := by
  cases hbreaks with
  | encoding hdecode => exact ⟨_, read_eq_encoding_iff.mpr hdecode⟩
  | nesting hread => exact ⟨_, hread⟩
  | digits hread => exact ⟨_, hread⟩

end Diagnostics.Toml
