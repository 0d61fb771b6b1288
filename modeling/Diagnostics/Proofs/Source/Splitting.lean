import Diagnostics.Proofs.Source.Lookup

/-!
# Lines of texts put together

The lines of two texts put together are their lines, except that the last line of the
first text and the first line of the second one become one line. The only texts of which
this does not hold are those whose terminators join as well, a carriage return at the
end and a line feed at the start; there the line feed goes to the line that the carriage
return had ended. A text that is empty or ends with a terminator leaves the lines after it
as they are.
-/

namespace Diagnostics

/-- The text is empty or its last character is a line terminator. -/
def EndsLine (text : List Char) : Prop :=
  ∀ c ∈ text.getLast?, isTerminator c

/-- The last character of one text and the first one of another are a single terminator.
-/
def SharesTerminator (left right : List Char) : Prop :=
  left.getLast? = some '\r' ∧ right.head? = some '\n'

/-- Two lists of lines, with the last line of the first list continued by the first line
of the second. -/
def joinLines : List (List Char) → List (List Char) → List (List Char)
  | [], back => back
  | [line], back => (line ++ back.headD []) :: back.tail
  | line :: next :: rest, back => line :: joinLines (next :: rest) back

theorem joinLines_cons (line : List Char) {front : List (List Char)} (back : List (List Char))
    (hfront : front ≠ []) : joinLines (line :: front) back = line :: joinLines front back := by
  cases front with
  | nil => exact absurd rfl hfront
  | cons next rest => rfl

theorem joinLines_consFirst (c : Char) {front : List (List Char)} (back : List (List Char))
    (hfront : front ≠ []) :
    joinLines (consFirst c front) back = consFirst c (joinLines front back) := by
  match front with
  | [] => exact absurd rfl hfront
  | [line] => rfl
  | line :: next :: rest => rfl

theorem joinLines_concat_cons (front : List (List Char)) (last first : List Char)
    (rest : List (List Char)) :
    joinLines (front ++ [last]) (first :: rest) = front ++ (last ++ first) :: rest := by
  induction front with
  | nil => rfl
  | cons line front ih =>
      rw [List.cons_append, joinLines_cons _ _ (by simp), ih, List.cons_append]

theorem joinLines_append_nil (front : List (List Char)) {back : List (List Char)}
    (hback : back ≠ []) : joinLines (front ++ [[]]) back = front ++ back := by
  obtain ⟨first, rest, rfl⟩ := List.exists_cons_of_ne_nil hback
  exact joinLines_concat_cons front [] first rest

theorem splitLines_cons_of_not_terminator {c : Char} (rest : List Char)
    (hc : isTerminator c = false) : splitLines (c :: rest) = consFirst c (splitLines rest) := by
  have hne : c ≠ '\r' := by
    rintro rfl
    exact absurd hc (by decide)
  rw [splitLines]
  · simp [hc]
  · exact fun _ heq _ => hne heq

theorem splitLines_cons_of_terminator {c : Char} {rest : List Char} (hc : isTerminator c)
    (hbreak : ¬SharesTerminator [c] rest) : splitLines (c :: rest) = [c] :: splitLines rest := by
  rw [splitLines]
  · simp [hc]
  · rintro tail rfl rfl
    exact hbreak ⟨rfl, rfl⟩

theorem sharesTerminator_cons {c : Char} {left right : List Char} (hleft : left ≠ []) :
    SharesTerminator (c :: left) right ↔ SharesTerminator left right := by
  obtain ⟨first, rest, rfl⟩ := List.exists_cons_of_ne_nil hleft
  rw [SharesTerminator, SharesTerminator, List.getLast?_cons_cons]

theorem not_sharesTerminator_tail {c : Char} {left right : List Char}
    (hbreak : ¬SharesTerminator (c :: left) right) : ¬SharesTerminator left right := by
  cases left with
  | nil => simp [SharesTerminator]
  | cons first rest => rwa [sharesTerminator_cons (List.cons_ne_nil _ _)] at hbreak

theorem splitLines_append (left right : List Char) (hbreak : ¬SharesTerminator left right) :
    splitLines (left ++ right) = joinLines (splitLines left) (splitLines right) := by
  fun_induction splitLines left with
  | case1 =>
      obtain ⟨first, rest, hright⟩ := List.exists_cons_of_ne_nil (splitLines_ne_nil right)
      simp [joinLines, hright]
  | case2 rest ih =>
      have htail := not_sharesTerminator_tail (not_sharesTerminator_tail hbreak)
      rw [List.cons_append, List.cons_append, splitLines, ih htail,
        joinLines_cons _ _ (splitLines_ne_nil rest)]
  | case3 c rest hnext hc ih =>
      have hhere : ¬SharesTerminator [c] (rest ++ right) := by
        cases rest with
        | nil => exact hbreak
        | cons first tail =>
            rintro ⟨hreturn, hfeed⟩
            rw [List.cons_append, List.head?_cons, Option.some.injEq] at hfeed
            rw [List.getLast?_singleton, Option.some.injEq] at hreturn
            exact hnext tail hreturn (by rw [hfeed])
      rw [List.cons_append, splitLines_cons_of_terminator hc hhere,
        ih (not_sharesTerminator_tail hbreak), joinLines_cons _ _ (splitLines_ne_nil rest)]
  | case4 c rest _ hc ih =>
      rw [List.cons_append, splitLines_cons_of_not_terminator _ (by simpa using hc),
        ih (not_sharesTerminator_tail hbreak), joinLines_consFirst _ _ (splitLines_ne_nil rest)]

theorem exists_splitLines_eq_concat (text : List Char) :
    ∃ front last, splitLines text = front ++ [last] :=
  ⟨_, _, (List.dropLast_concat_getLast (splitLines_ne_nil text)).symm⟩

/-- If a carriage return at the end of a text and the line feed after it are put together,
they end the line before the last one of that text. -/
theorem splitLines_append_of_sharesTerminator {left right : List Char}
    (hshares : SharesTerminator left right) : ∃ front line,
      splitLines left = front ++ [line, []] ∧ splitLines right = ['\n'] :: splitLines right.tail ∧
        splitLines (left ++ right) = front ++ (line ++ ['\n']) :: splitLines right.tail := by
  obtain ⟨body, rfl⟩ := List.getLast?_eq_some_iff.mp hshares.1
  obtain ⟨tail, rfl⟩ := List.head?_eq_some_iff.mp hshares.2
  obtain ⟨front, last, hbody⟩ := exists_splitLines_eq_concat body
  -- Cut before the carriage return, no terminator is cut in two.
  have hcut : ∀ rest, ¬SharesTerminator body ('\r' :: rest) := by simp [SharesTerminator]
  refine ⟨front, last ++ ['\r'], ?_, rfl, ?_⟩
  · rw [splitLines_append _ _ (hcut []), hbody]
    exact joinLines_concat_cons front last ['\r'] [[]]
  · rw [List.append_assoc, List.singleton_append, splitLines_append _ _ (hcut ('\n' :: tail)),
      hbody, splitLines, joinLines_concat_cons, List.append_assoc]
    rfl

/-- The lines of two texts put together are those of the first text but its last line, that
line continued by the first line of the second text, and the other lines of the second text.
If the cut is within a terminator, it is the line before the last one that is continued, by
a line feed alone. -/
theorem splitLines_append_eq (left right : List Char) :
    (¬SharesTerminator left right → ∃ front last first rest,
        splitLines left = front ++ [last] ∧ splitLines right = first :: rest ∧
          splitLines (left ++ right) = front ++ (last ++ first) :: rest) ∧
      (SharesTerminator left right → ∃ front line last first rest,
        splitLines left = front ++ [line, last] ∧ splitLines right = first :: rest ∧
          splitLines (left ++ right) = front ++ (line ++ ['\n']) :: rest) := by
  constructor
  · intro hbreak
    obtain ⟨front, last, hleft⟩ := exists_splitLines_eq_concat left
    obtain ⟨first, rest, hright⟩ := List.exists_cons_of_ne_nil (splitLines_ne_nil right)
    refine ⟨front, last, first, rest, hleft, hright, ?_⟩
    rw [splitLines_append left right hbreak, hleft, hright, joinLines_concat_cons]
  · intro hshares
    obtain ⟨front, line, hleft, hright, happend⟩ := splitLines_append_of_sharesTerminator hshares
    exact ⟨front, line, _, _, _, hleft, hright, happend⟩

theorem endsLine_tail {c : Char} {text : List Char} (hends : EndsLine (c :: text)) :
    EndsLine text := by
  cases text with
  | nil => simp [EndsLine]
  | cons first rest =>
      rw [EndsLine, List.getLast?_cons_cons] at hends
      exact hends

/-- The last line of a text that is empty or ends with a terminator is empty. -/
theorem exists_splitLines_eq_append_nil {text : List Char} (hends : EndsLine text) :
    ∃ front, splitLines text = front ++ [[]] := by
  fun_induction splitLines text with
  | case1 => exact ⟨[], rfl⟩
  | case2 rest ih =>
      obtain ⟨front, hfront⟩ := ih (endsLine_tail (endsLine_tail hends))
      exact ⟨['\r', '\n'] :: front, by rw [hfront, List.cons_append]⟩
  | case3 c rest _ _ ih =>
      obtain ⟨front, hfront⟩ := ih (endsLine_tail hends)
      exact ⟨[c] :: front, by rw [hfront, List.cons_append]⟩
  | case4 c rest _ hc ih =>
      obtain ⟨front, hfront⟩ := ih (endsLine_tail hends)
      cases front with
      | nil =>
          -- The rest would be empty, and the text would end with `c`.
          have hrest : rest = [] := by
            rw [← flatten_splitLines rest, hfront]
            rfl
          subst hrest
          exact absurd (hends c rfl) hc
      | cons line front => exact ⟨(c :: line) :: front, by rw [hfront]; rfl⟩

end Diagnostics
