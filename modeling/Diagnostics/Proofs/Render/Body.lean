import Diagnostics.Proofs.Render.Layout

/-!
# The rows of labelled lines

Between the header and the border the labelled lines are shown one after the other. Each
is a source row, with at most one mark in front of it, and below it the rows of its
labels by ascending order.
-/

namespace Diagnostics

/-- `body` shows `lines` in their order, each with those of the `drawn` labels that are
on it. -/
inductive ShowsLines (report : Report) (source : Source) (drawn : List DrawnLabel) :
    (lines : List Nat) → (body : List Row) → Prop
  | nil : ShowsLines report source drawn [] []
  | cons {line : Nat} {lines : List Nat} {marks below : List Row} {onLine : List DrawnLabel}
      (marked : marks = [] ∨ marks = [.elision])
      (sorted : StablySorted DrawnLabel.order (drawn.filter (·.line = line)) onLine)
      (rest : ShowsLines report source drawn lines below) :
      ShowsLines report source drawn (line :: lines)
        (marks ++ sourceRow report source line :: onLine.flatMap labelRows ++ below)

theorem elisionRows_eq (elideAfter : Int) (previous : Option Nat) (line : Nat) :
    elisionRows elideAfter previous line = [] ∨
      elisionRows elideAfter previous line = [.elision] := by
  cases previous with
  | none => exact Or.inl rfl
  | some last =>
      rw [elisionRows]
      split
      · exact Or.inr rfl
      · exact Or.inl rfl

theorem showsLines_bodyRows (report : Report) (source : Source) (elideAfter : Int)
    (drawn : List DrawnLabel) (previous : Option Nat) (lines : List Nat) :
    ShowsLines report source drawn lines
      (bodyRows report source elideAfter (orderedLabels drawn) previous lines) := by
  induction lines generalizing previous with
  | nil => exact .nil
  | cons line rest ih =>
      exact .cons (elisionRows_eq elideAfter previous line) (stablySorted_labelsOn drawn line)
        (ih (some line))

/-- Of the report, the rows of labelled lines depend on the tab width only. -/
theorem bodyRows_congr {report other : Report}
    (htabWidth : other.config.tabWidth = report.config.tabWidth) (source : Source)
    (elideAfter : Int) (labels : List DrawnLabel) (previous : Option Nat) (lines : List Nat) :
    bodyRows other source elideAfter labels previous lines =
      bodyRows report source elideAfter labels previous lines := by
  induction lines generalizing previous with
  | nil => rfl
  | cons line rest ih =>
      rw [bodyRows, bodyRows, ih, blockRows, blockRows, sourceRow, sourceRow, htabWidth]

/-- The rows of a label: its underline, and an arrow if its message is neither absent
nor empty. -/
theorem labelRows_eq (label : DrawnLabel) :
    labelRows label = .underline label ::
      match label.msg with
      | none => []
      | some msg => if msg = "" then [] else [.arrow label msg] := by
  rw [labelRows, presentText]
  cases label.msg with
  | none => rfl
  | some msg => by_cases hempty : msg = "" <;> simp [hempty]

/-- The rows above and below those of the labelled lines are the same for all labels. -/
theorem exists_body (report : Report) (source : Source) (elideAfter : Int) :
    ∃ body, rows report source elideAfter =
        [headerRow report, .location (locationReference report source), .gutter] ++ body ++
          .border :: (report.notes.map (fun note => .note (noteText note)) ++
            report.help.map fun help => .help (noteText help)) ∧
      ShowsLines report source (drawnLabels report source)
        (labelledLines (drawnLabels report source)) body := by
  refine ⟨_, ?_, showsLines_bodyRows report source elideAfter (drawnLabels report source) none _⟩
  simp [rows, labelledLines_orderedLabels]

namespace ShowsLines

variable {report : Report} {source : Source} {drawn : List DrawnLabel}
variable {lines : List Nat} {body : List Row}

theorem mem_of_labelRows (hshows : ShowsLines report source drawn lines body)
    {label : DrawnLabel} (hlabel : label ∈ drawn) (hline : label.line ∈ lines) {row : Row}
    (hrow : row ∈ labelRows label) : row ∈ body := by
  induction hshows with
  | nil => simp at hline
  | @cons line lines marks below onLine _ sorted _ ih =>
      rcases List.mem_cons.mp hline with heq | hlater
      · have hon : label ∈ onLine := by
          rw [sorted.perm.mem_iff, List.mem_filter]
          exact ⟨hlabel, by simpa using heq⟩
        have hshown : row ∈ onLine.flatMap labelRows := List.mem_flatMap.mpr ⟨label, hon, hrow⟩
        simp [hshown]
      · simp [ih hlater]

theorem sourceRow_mem (hshows : ShowsLines report source drawn lines body) {line : Nat}
    (hline : line ∈ lines) : sourceRow report source line ∈ body := by
  induction hshows with
  | nil => cases hline
  | cons _ _ _ ih =>
      rcases List.mem_cons.mp hline with rfl | hlater
      · simp
      · simp [ih hlater]

/-- Every row is a mark, the source row of a line, or a row of a label. -/
theorem mem_cases (hshows : ShowsLines report source drawn lines body) {row : Row}
    (hrow : row ∈ body) :
    row = .elision ∨ (∃ line ∈ lines, row = sourceRow report source line) ∨
      ∃ label ∈ drawn, row ∈ labelRows label := by
  induction hshows with
  | nil => simp at hrow
  | @cons line lines marks below onLine marked sorted _ ih =>
      simp only [List.mem_append, List.mem_cons] at hrow
      rcases hrow with (hmark | hsource | hlabels) | hbelow
      · left
        rcases marked with rfl | rfl
        · simp at hmark
        · simpa using hmark
      · exact Or.inr (Or.inl ⟨line, List.mem_cons_self, hsource⟩)
      · obtain ⟨label, hon, hlabel⟩ := List.mem_flatMap.mp hlabels
        have hdrawn : label ∈ drawn := List.mem_of_mem_filter (sorted.perm.mem_iff.mp hon)
        exact Or.inr (Or.inr ⟨label, hdrawn, hlabel⟩)
      · rcases ih hbelow with heq | ⟨other, hother, heq⟩ | hlabel
        · exact Or.inl heq
        · exact Or.inr (Or.inl ⟨other, List.mem_cons_of_mem _ hother, heq⟩)
        · exact Or.inr (Or.inr hlabel)

end ShowsLines

/-- A drawn label has the source row of its line and all its own rows in the report. -/
theorem mem_rows_of_drawn {report : Report} {source : Source} (elideAfter : Int)
    {label : DrawnLabel} (hlabel : label ∈ drawnLabels report source) {row : Row}
    (hrow : row = sourceRow report source label.line ∨ row ∈ labelRows label) :
    row ∈ rows report source elideAfter := by
  obtain ⟨body, hbody, hshows⟩ := exists_body report source elideAfter
  have hline : label.line ∈ labelledLines (drawnLabels report source) :=
    mem_labelledLines.mpr ⟨label, hlabel, rfl⟩
  have hmem : row ∈ body := by
    rcases hrow with rfl | hrow
    · exact hshows.sourceRow_mem hline
    · exact hshows.mem_of_labelRows hlabel hline hrow
  rw [hbody]
  simp [hmem]

/-- The source rows of a report are those of the lines of its drawn labels. -/
theorem eq_sourceRow_of_mem_rows {report : Report} {source : Source} {elideAfter number : Int}
    {text : List Char} (hmem : .source number text ∈ rows report source elideAfter) :
    ∃ label ∈ drawnLabels report source,
      Row.source number text = sourceRow report source label.line := by
  obtain ⟨body, hbody, hshows⟩ := exists_body report source elideAfter
  have hinBody : Row.source number text ∈ body := by
    rw [hbody] at hmem
    simpa [headerRow] using hmem
  rcases hshows.mem_cases hinBody with heq | ⟨line, hline, heq⟩ | ⟨label, -, hlabel⟩
  · cases heq
  · obtain ⟨label, hlabel, rfl⟩ := mem_labelledLines.mp hline
    exact ⟨label, hlabel, heq⟩
  · rw [labelRows, List.mem_cons] at hlabel
    simp at hlabel

end Diagnostics
