/-!
# Terminal escape sequences

An escape sequence is the escape character, an opening bracket, any number of parameter characters
and one final character. Removing the sequences of a form is a single pass from left to right: what
becomes adjacent by a removal is not looked at again.
-/

namespace Diagnostics

/-- Whether rendered text may hold escape sequences. -/
inductive AnsiMode where
  | off
  | on
  deriving DecidableEq, Repr

def escapeChar : Char := '\x1b'

structure EscapeForm where
  isParameter : Char → Bool
  isFinal : Char → Bool

namespace EscapeForm

/-- The sequences that select a rendition: colours and their reset. -/
def rendition : EscapeForm where
  isParameter c := ('0' ≤ c && c ≤ '9') || c = ';'
  isFinal c := c = 'm'

/-- The sequences with numeric parameters and a letter at the end. -/
def control : EscapeForm where
  isParameter c := ('0' ≤ c && c ≤ '9') || c = ';' || c = '?'
  isFinal c := ('a' ≤ c && c ≤ 'z') || ('A' ≤ c && c ≤ 'Z')

variable (form : EscapeForm)

/-- The length of the parameters and the final character at the start, or zero if they are not
there. -/
def bodyLength : List Char → Nat
  | [] => 0
  | c :: rest =>
      if form.isParameter c then
        match bodyLength rest with
        | 0 => 0
        | n + 1 => n + 2
      else if form.isFinal c then 1
      else 0

/-- The length of the sequence at the start, or zero if there is none. -/
def sequenceLength : List Char → Nat
  | a :: b :: rest =>
      if a = escapeChar ∧ b = '[' then
        match form.bodyLength rest with
        | 0 => 0
        | n + 1 => n + 3
      else 0
  | _ => 0

/-- Removes the sequences after skipping `skip` characters. -/
def stripFrom : (skip : Nat) → List Char → List Char
  | _, [] => []
  | skip + 1, _ :: rest => stripFrom skip rest
  | 0, c :: rest =>
      match form.sequenceLength (c :: rest) with
      | 0 => c :: stripFrom 0 rest
      | n + 1 => stripFrom n rest

def strip (text : List Char) : List Char :=
  form.stripFrom 0 text

@[simp]
theorem strip_nil : form.strip [] = [] := rfl

theorem stripFrom_eq_strip_drop (skip : Nat) (text : List Char) :
    form.stripFrom skip text = form.strip (text.drop skip) := by
  induction text generalizing skip with
  | nil => simp [stripFrom]
  | cons c rest ih =>
      cases skip with
      | zero => rfl
      | succ n => simpa [stripFrom] using ih n

theorem strip_cons_of_ne (c : Char) (rest : List Char) (hc : c ≠ escapeChar) :
    form.strip (c :: rest) = c :: form.strip rest := by
  have hzero : form.sequenceLength (c :: rest) = 0 := by
    cases rest <;> simp [sequenceLength, hc]
  simp [strip, stripFrom, hzero]

end EscapeForm

end Diagnostics
