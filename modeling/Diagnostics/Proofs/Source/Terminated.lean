import Mathlib.Data.List.Chain
import Diagnostics.Proofs.Source.Splitting

/-!
# Terminated lines

What the lines of a text are, without saying how they are found: all but the last one end
with a line ending and hold no other, the last one holds none, and no line ending is cut
in two. There is exactly one such list for every text, and splitting the text gives it.
The uniqueness rests on the first line: it ends at the first line ending of the text,
which is the longer one where a carriage return is followed by a line feed.
-/

namespace Diagnostics

/-- What a line may end with. -/
def lineEndings : List (List Char) :=
  [['\r', '\n'], ['\n'], ['\r'], ['\x0b'], ['\x0c'], ['\u0085'], ['\u2028'], ['\u2029']]

/-- The text holds no line ending. -/
def Unterminated (text : List Char) : Prop :=
  ∀ c ∈ text, [c] ∉ lineEndings

/-- The text ends with a line ending and holds no other. -/
def Terminated (line : List Char) : Prop :=
  ∃ body ending, line = body ++ ending ∧ Unterminated body ∧ ending ∈ lineEndings

/-- The lines of a text, in order. -/
structure LinesOf (text : List Char) (lines : List (List Char)) : Prop where
  nonempty : lines ≠ []
  whole : lines.flatten = text
  terminated : ∀ line ∈ lines.dropLast, Terminated line
  last : ∀ line ∈ lines.getLast?, Unterminated line
  /-- No line ends with a carriage return if the next one starts with a line feed. -/
  apart : lines.IsChain fun line next => ¬SharesTerminator line next

theorem isTerminator_iff (c : Char) : isTerminator c ↔ [c] ∈ lineEndings := by
  simp [isTerminator, lineEndings, or_assoc]

theorem unterminated_cons {c : Char} {text : List Char} :
    Unterminated (c :: text) ↔ isTerminator c = false ∧ Unterminated text := by
  rw [← Bool.not_eq_true, isTerminator_iff]
  exact List.forall_mem_cons

/-! ### Splitting at the first line ending -/

theorem splitLines_of_unterminated {text : List Char} (htext : Unterminated text) :
    splitLines text = [text] := by
  induction text with
  | nil => rfl
  | cons c rest ih =>
      obtain ⟨hc, hrest⟩ := unterminated_cons.mp htext
      rw [splitLines_cons_of_not_terminator rest hc, ih hrest]
      rfl

theorem splitLines_lineEnding {ending : List Char} (hending : ending ∈ lineEndings) :
    splitLines ending = [ending, []] := by
  have hall : ∀ ending ∈ lineEndings, splitLines ending = [ending, []] := by decide
  exact hall ending hending

/-- A text without a carriage return cannot share a line ending with what follows it. -/
theorem Unterminated.not_sharesTerminator {body : List Char} (hbody : Unterminated body)
    (rest : List Char) : ¬SharesTerminator body rest := by
  rintro ⟨hreturn, -⟩
  exact hbody '\r' (List.mem_of_getLast? hreturn) (by decide)

theorem splitLines_of_terminated {line : List Char} (hline : Terminated line) :
    splitLines line = [line, []] := by
  obtain ⟨body, ending, rfl, hbody, hending⟩ := hline
  rw [splitLines_append _ _ (hbody.not_sharesTerminator ending), splitLines_of_unterminated hbody,
    splitLines_lineEnding hending]
  rfl

theorem splitLines_terminated_append {line rest : List Char} (hline : Terminated line)
    (hbreak : ¬SharesTerminator line rest) :
    splitLines (line ++ rest) = line :: splitLines rest := by
  rw [splitLines_append _ _ hbreak, splitLines_of_terminated hline]
  exact joinLines_append_nil [line] (splitLines_ne_nil rest)

theorem Terminated.ne_nil {line : List Char} (hline : Terminated line) : line ≠ [] := by
  rintro rfl
  exact List.cons_ne_self _ _ (splitLines_of_terminated hline).symm

/-! ### Lines one after the other -/

namespace LinesOf

variable {text line next : List Char} {rest : List (List Char)}

/-- A text without a line ending is its only line. -/
theorem singleton (hline : Unterminated line) : LinesOf line [line] where
  nonempty := List.cons_ne_nil _ _
  whole := List.flatten_singleton
  terminated := List.forall_mem_nil _
  last := by rintro _ ⟨⟩; exact hline
  apart := .singleton _

theorem unterminated (hlines : LinesOf text [line]) : Unterminated line :=
  hlines.last line rfl

/-- Only the last line may be empty, so that a text starts with its first line. -/
theorem sharesTerminator_iff (hlines : LinesOf text (next :: rest)) (line : List Char) :
    SharesTerminator line text ↔ SharesTerminator line next := by
  have hhead : text.head? = next.head? := by
    rw [← hlines.whole, List.flatten_cons]
    cases rest with
    | nil => rw [List.flatten_nil, List.append_nil]
    | cons second others =>
        have hnext : next ≠ [] := (hlines.terminated next List.mem_cons_self).ne_nil
        exact List.head?_append_of_ne_nil _ hnext
  rw [SharesTerminator, SharesTerminator, hhead]

theorem cons (hline : Terminated line) (hrest : LinesOf text rest)
    (hbreak : ¬SharesTerminator line text) : LinesOf (line ++ text) (line :: rest) := by
  obtain ⟨next, others, rfl⟩ := List.exists_cons_of_ne_nil hrest.nonempty
  rw [hrest.sharesTerminator_iff] at hbreak
  exact
    { nonempty := List.cons_ne_nil _ _
      whole := by rw [List.flatten_cons, hrest.whole]
      terminated := List.forall_mem_cons.mpr ⟨hline, hrest.terminated⟩
      last := hrest.last
      apart := hrest.apart.cons_cons hbreak }

theorem of_cons (hlines : LinesOf text (line :: next :: rest)) :
    Terminated line ∧ LinesOf (next :: rest).flatten (next :: rest) ∧
      ¬SharesTerminator line (next :: rest).flatten := by
  obtain ⟨hline, hothers⟩ := List.forall_mem_cons.mp hlines.terminated
  obtain ⟨hbreak, hchain⟩ := List.isChain_cons_cons.mp hlines.apart
  have hrest : LinesOf (next :: rest).flatten (next :: rest) :=
    ⟨List.cons_ne_nil _ _, rfl, hothers, hlines.last, hchain⟩
  exact ⟨hline, hrest, mt (hrest.sharesTerminator_iff line).mp hbreak⟩

/-- A character that ends no line belongs to the line that it stands before. -/
theorem consFirst {c : Char} (hc : isTerminator c = false) {lines : List (List Char)}
    (hlines : LinesOf text lines) : LinesOf (c :: text) (consFirst c lines) := by
  match lines, hlines with
  | [], hlines => exact absurd rfl hlines.nonempty
  | [line], hlines =>
      obtain rfl : line = text := by simpa using hlines.whole
      exact singleton (unterminated_cons.mpr ⟨hc, hlines.unterminated⟩)
  | line :: next :: rest, hlines =>
      obtain ⟨hline, hrest, hbreak⟩ := hlines.of_cons
      have hfirst : Terminated (c :: line) := by
        obtain ⟨body, ending, rfl, hbody, hending⟩ := hline
        exact ⟨c :: body, ending, rfl, unterminated_cons.mpr ⟨hc, hbody⟩, hending⟩
      rw [← hlines.whole]
      exact cons hfirst hrest ((sharesTerminator_cons hline.ne_nil).not.mpr hbreak)

end LinesOf

theorem terminated_of_mem {ending : List Char} (hending : ending ∈ lineEndings) :
    Terminated ending :=
  ⟨[], ending, rfl, List.forall_mem_nil _, hending⟩

theorem linesOf_splitLines (text : List Char) : LinesOf text (splitLines text) := by
  fun_induction splitLines text with
  | case1 => exact .singleton (List.forall_mem_nil _)
  | case2 rest ih =>
      have hending : Terminated ['\r', '\n'] := terminated_of_mem (by decide)
      exact .cons hending ih (by simp [SharesTerminator])
  | case3 c rest hnext hc ih =>
      refine .cons (terminated_of_mem ((isTerminator_iff c).mp hc)) ih ?_
      rintro ⟨hreturn, hfeed⟩
      obtain ⟨tail, rfl⟩ := List.head?_eq_some_iff.mp hfeed
      exact hnext tail (Option.some.inj hreturn) rfl
  | case4 c rest _ hc ih => exact ih.consFirst (by simpa using hc)

theorem LinesOf.eq_splitLines {text : List Char} {lines : List (List Char)}
    (hlines : LinesOf text lines) : lines = splitLines text := by
  induction lines generalizing text with
  | nil => exact absurd rfl hlines.nonempty
  | cons line rest ih =>
      cases rest with
      | nil =>
          obtain rfl : line = text := by simpa using hlines.whole
          exact (splitLines_of_unterminated hlines.unterminated).symm
      | cons next rest =>
          obtain ⟨hline, hrest, hbreak⟩ := hlines.of_cons
          rw [← hlines.whole, List.flatten_cons, splitLines_terminated_append hline hbreak,
            ← ih hrest]

/-- Splitting a text gives the only list that its lines can be. -/
theorem splitLines_eq_iff (text : List Char) (lines : List (List Char)) :
    splitLines text = lines ↔ LinesOf text lines := by
  constructor
  · rintro rfl
    exact linesOf_splitLines text
  · exact fun hlines => hlines.eq_splitLines.symm

end Diagnostics
