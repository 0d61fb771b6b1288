import Diagnostics.Proofs.CommandLine.Accepted
import Diagnostics.Proofs.Escape.Strip
import Diagnostics.Proofs.Source.Tabulation
import Diagnostics.Proofs.Text.Decimal
import Diagnostics.Proofs.Text.Utf8
import Diagnostics.Usual

/-!
# The bytes of a source file

A source file is read as the text that its bytes encode, and nothing about the bytes is changed on
the way, so that the byte offsets of the line table are offsets into the file. Bytes that encode
no text are refused by the commands that look into a file, which say how many bytes are fine.
-/

namespace Diagnostics.CommandLine

/-- The command looks into the file and does nothing else. -/
def Command.LooksInto (file : String) : Command → Prop
  | .render _ => False
  | .lines path => path = file
  | .locate path _ _ => path = file

/-- The front of the line about a file, which is written without what would be an escape sequence
there. -/
def errorLead (terminal : Bool) (file : String) : List Char :=
  let lead := ("error: " ++ file).toList
  if terminal then lead else EscapeForm.control.strip lead

/-- The rest of the line about a file that is not UTF-8. -/
def encodingComplaint (position : Nat) (reason : Utf8.Reason) : String :=
  ": not valid UTF-8 at byte " ++ toString position ++ " (" ++ reason.message ++ ")\n"

theorem echo_of_escapeFree {text : List Char} (hfree : escapeChar ∉ text) (terminal : Bool) :
    echo terminal text = text ++ ['\n'] := by
  have hline : escapeChar ∉ text ++ ['\n'] := List.not_mem_append hfree (by decide)
  cases terminal with
  | true => rfl
  | false => exact EscapeForm.control.strip_of_not_mem hline

variable {file : String} {bytes : List UInt8}

theorem readSource_eq_ok_iff {source : Source} :
    readSource file bytes = .ok source ↔
      ∃ text, Utf8.decode bytes = .ok text ∧ source = { text } := by
  rw [readSource]
  cases Utf8.decode bytes with
  | ok text => simp [eq_comm]
  | error cause => simp

theorem escapeChar_not_mem_encodingComplaint (position : Nat) (reason : Utf8.Reason) :
    escapeChar ∉ (encodingComplaint position reason).toList := by
  have hlead : escapeChar ∉ ": not valid UTF-8 at byte ".toList := by decide
  have hposition := Text.escapeChar_not_mem_toString_nat position
  have hopen : escapeChar ∉ " (".toList := by decide
  have hreason : escapeChar ∉ reason.message.toList := by cases reason <;> decide
  have hclose : escapeChar ∉ ")\n".toList := by decide
  unfold encodingComplaint
  simp only [String.toList_append, List.mem_append, not_or]
  exact ⟨⟨⟨⟨hlead, hposition⟩, hopen⟩, hreason⟩, hclose⟩

section Platform

variable [Platform]

/-- Offsets into the file are offsets into its source. -/
structure ReadByItsBytes (file : String) (bytes : List UInt8) : Prop where
  readable : (∃ source, readSource file bytes = .ok source) ↔ Utf8.WellFormed bytes
  encoded : ∀ source, readSource file bytes = .ok source → Utf8.encode source.text = bytes
  size : ∀ source, readSource file bytes = .ok source → source.total .byte = bytes.length
  /-- What a record says of the file is the text of its line. -/
  lineText : ∀ source, readSource file bytes = .ok source → ∀ line ∈ source.lines,
    ∃ piece, source.lineText? line = some piece ∧
      Utf8.decode (slice bytes line.byteOffset line.byteLength) = .ok piece
  /-- The commands name the length of the longest beginning that is UTF-8. -/
  refused : ¬Utf8.WellFormed bytes →
    ∃ position reason,
      IsGreatest {length | length ≤ bytes.length ∧ Utf8.WellFormed (bytes.take length)}
        position ∧
      ∀ tree args command terminals, Accepted tree args command → command.LooksInto file →
        tree.bytesAt? file = some bytes →
        run tree terminals args = .finished
          { status := 1
            stdout := []
            stderr := errorLead terminals.stderr file ++
              (encodingComplaint position reason).toList }

theorem message_encodingError (file : String) (cause : Utf8.DecodeError) :
    "error: " ++ (CommandError.sourceEncoding file cause).message ++ "\n" =
      "error: " ++ file ++ encodingComplaint cause.position cause.reason := by
  have hend : ")" ++ "\n" = ")\n" := by decide
  unfold encodingComplaint
  simp only [CommandError.message, String.append_assoc, hend]

/-- Nothing of the complaint is taken for an escape sequence, not even one that the name of the
file leaves open. -/
theorem echo_encodingError (terminal : Bool) (file : String) (cause : Utf8.DecodeError) :
    echo terminal ("error: " ++ (CommandError.sourceEncoding file cause).message).toList =
      errorLead terminal file ++ (encodingComplaint cause.position cause.reason).toList := by
  have hend : "\n".toList = ['\n'] := by decide
  have hline : ("error: " ++ (CommandError.sourceEncoding file cause).message).toList ++ ['\n'] =
      ("error: " ++ file).toList ++ (encodingComplaint cause.position cause.reason).toList := by
    rw [← String.toList_append, ← message_encodingError, String.toList_append (t := "\n"), hend]
  rw [echo, hline, errorLead]
  cases terminal with
  | true => rfl
  | false =>
      have hfree := escapeChar_not_mem_encodingComplaint cause.position cause.reason
      have hstrip := EscapeForm.control.strip_of_not_mem hfree
      obtain ⟨later, hcolon⟩ : ∃ later,
          (encodingComplaint cause.position cause.reason).toList = ':' :: later := by
        unfold encodingComplaint
        simp only [String.append_assoc, String.toList_append]
        exact ⟨_, rfl⟩
      rw [hcolon] at hstrip ⊢
      have hcontinues : EscapeForm.control.continues ':' = false := by decide
      rw [if_neg Bool.false_ne_true, if_neg Bool.false_ne_true,
        EscapeForm.control.strip_append_of_not_continues _ _ hcontinues, hstrip]

theorem run_of_encodingError {tree : FileTree} {args : List String} {command : Command}
    {cause : Utf8.DecodeError} (haccepted : Accepted tree args command)
    (hlooks : command.LooksInto file) (hbytes : tree.bytesAt? file = some bytes)
    (hdecode : Utf8.decode bytes = .error cause) (terminals : Terminals) :
    run tree terminals args = .finished
      { status := 1
        stdout := []
        stderr := errorLead terminals.stderr file ++
          (encodingComplaint cause.position cause.reason).toList } := by
  rw [run_of_accepted haccepted, ← echo_encodingError]
  cases command with
  | render => exact hlooks.elim
  | lines path =>
      obtain rfl := hlooks
      simp only [runCommand, hbytes, readSource, hdecode]
      rfl
  | locate path offset unit =>
      obtain rfl := hlooks
      simp only [runCommand, hbytes, readSource, hdecode]
      rfl

/-- A source file is indexed by its bytes, or is refused for them. -/
theorem readByItsBytes (file : String) (bytes : List UInt8) : ReadByItsBytes file bytes where
  readable := by
    rw [← Utf8.exists_decode_eq_ok_iff]
    simp [readSource_eq_ok_iff]
  encoded source hread := by
    obtain ⟨text, hdecode, rfl⟩ := readSource_eq_ok_iff.mp hread
    exact Utf8.decode_eq_ok_iff.mp hdecode
  size source hread := by
    obtain ⟨text, hdecode, rfl⟩ := readSource_eq_ok_iff.mp hread
    rw [← Utf8.decode_eq_ok_iff.mp hdecode, Utf8.length_encode]
    rfl
  lineText source hread line hline := by
    obtain ⟨text, hdecode, rfl⟩ := readSource_eq_ok_iff.mp hread
    obtain ⟨index, hindex⟩ := List.mem_iff_getElem?.mp hline
    refine ⟨_, Source.lineText?_of_mem _ hindex, ?_⟩
    rw [Utf8.decode_eq_ok_iff, Source.encode_textAt_eq_slice _ hindex,
      Utf8.decode_eq_ok_iff.mp hdecode]
  refused hformed := by
    cases hdecode : Utf8.decode bytes with
    | ok text => exact absurd (Utf8.exists_decode_eq_ok_iff.mp ⟨text, hdecode⟩) hformed
    | error cause =>
        exact ⟨cause.position, cause.reason, Utf8.isGreatest_position hdecode,
          fun _ _ _ terminals haccepted hlooks hbytes =>
            run_of_encodingError haccepted hlooks hbytes hdecode terminals⟩

end Platform

/-- The file ends in the middle of a character. -/
def brokenBytes : List UInt8 :=
  Utf8.encode "ok\r\nπ".toList ++ [0xE2, 0x82]

def brokenTree : FileTree where
  files := [(["main.src"], brokenBytes)]

/-- The position is that of the first byte of the sequence that breaks off. -/
theorem readByItsBytes_brokenTree :
    brokenTree.bytesAt? "main.src" = some brokenBytes ∧ ¬Utf8.WellFormed brokenBytes ∧
      ∃ reason, run brokenTree ⟨false, false⟩ ["lines", "main.src"] = .finished
        { status := 1
          stdout := []
          stderr := errorLead false "main.src" ++ (encodingComplaint 6 reason).toList } := by
  have hbytes : brokenTree.bytesAt? "main.src" = some brokenBytes := by decide +kernel
  have hdecode : Utf8.decode brokenBytes = .error ⟨6, .endOfData⟩ := by decide +kernel
  have hformed : ¬Utf8.WellFormed brokenBytes := by
    rw [← Utf8.exists_decode_eq_ok_iff, hdecode]
    nofun
  have haccepted : Accepted brokenTree ["lines", "main.src"] (.lines "main.src") :=
    ⟨.lines, [.operand "main.src"], by decide +kernel, by decide +kernel, rfl⟩
  obtain ⟨position, reason, hgreatest, hrun⟩ :=
    (readByItsBytes "main.src" brokenBytes).refused hformed
  obtain rfl : position = 6 := hgreatest.unique (Utf8.isGreatest_position hdecode)
  exact ⟨hbytes, hformed, reason, hrun brokenTree _ _ ⟨false, false⟩ haccepted rfl hbytes⟩

end Diagnostics.CommandLine
