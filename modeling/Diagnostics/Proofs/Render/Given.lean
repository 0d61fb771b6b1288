import Diagnostics.Proofs.Render.Body
import Diagnostics.Proofs.Render.Stripped

/-!
# Where the texts of rows come from

The texts in the rows of a report are made up of its own texts, of the lines of its drawn labels
and of printable characters of ASCII: digits, brackets and colons, and the spaces that stand for
blanks.
-/

namespace Diagnostics

/-- The character is one of a text of the report that is shown, or of a line that is drawn. -/
inductive Report.Gives (report : Report) (source : Source) (c : Char) : Prop
  | source (hc : c ∈ (sourceName report.span.source).toList)
  | line {label : DrawnLabel} (hlabel : label ∈ drawnLabels report source)
      (hc : c ∈ source.textAt label.line) (hblank : Text.isBlank c = false)
  | kind (hc : c ∈ report.kind.name.toList)
  | code {code : String} (hcode : code ∈ report.code) (hc : c ∈ code.toList)
  | msg {msg : String} (hmsg : msg ∈ report.msg) (hc : c ∈ msg.toList)
  | labelMsg {label : DrawnLabel} {msg : String} (hlabel : label ∈ drawnLabels report source)
      (hmsg : msg ∈ label.msg) (hc : c ∈ msg.toList)
  | note {note : Option String} {text : String} (hnote : note ∈ report.notes) (htext : text ∈ note)
      (hc : c ∈ text.toList)
  | help {help : Option String} {text : String} (hhelp : help ∈ report.help) (htext : text ∈ help)
      (hc : c ∈ text.toList)

/-- The text is made up of given characters and printable ones of ASCII. -/
def Report.MakesUp (report : Report) (source : Source) (text : List Char) : Prop :=
  ∀ c ∈ text, report.Gives source c ∨ Text.IsTypewritten c

/-! ### Texts of lines and numbers -/

theorem mem_of_mem_trimRight {text : List Char} {c : Char} (hc : c ∈ Text.trimRight text) :
    c ∈ text := by
  rw [Text.trimRight, List.mem_reverse] at hc
  exact List.mem_reverse.mp ((List.dropWhile_sublist _).subset hc)

/-- Expanding a text brings nothing but spaces into it, and leaves no other blanks. -/
theorem mem_of_mem_expandFrom {tabWidth column : Int} {text : List Char} {c : Char}
    (hne : c ≠ ' ') (hc : c ∈ expandFrom tabWidth column text) :
    c ∈ text ∧ Text.isBlank c = false := by
  induction text generalizing column with
  | nil => cases hc
  | cons first rest ih =>
      rw [expandFrom, List.mem_append] at hc
      obtain hhere | hlater := hc
      · have hcell := List.eq_of_mem_replicate hhere
        rw [cell] at hcell
        split at hcell
        · exact absurd hcell hne
        · split at hcell
          · exact absurd hcell hne
          · next hblank =>
              obtain rfl : c = first := hcell
              exact ⟨List.mem_cons_self, Bool.eq_false_iff.mpr hblank⟩
      · obtain ⟨hrest, hblank⟩ := ih hlater
        exact ⟨List.mem_cons_of_mem _ hrest, hblank⟩

namespace Report.MakesUp

variable {report : Report} {source : Source}

theorem of_typewritten {text : List Char} (htext : Text.AllTypewritten text) :
    report.MakesUp source text :=
  fun c hc => .inr (htext c hc)

theorem append {front back : String} (hfront : report.MakesUp source front.toList)
    (hback : report.MakesUp source back.toList) : report.MakesUp source (front ++ back).toList := by
  rw [String.toList_append]
  exact List.forall_mem_append.mpr ⟨hfront, hback⟩

theorem number (n : Int) : report.MakesUp source (toString n).toList := by
  rw [Text.toList_toString_int]
  exact of_typewritten (Text.allTypewritten_decimal n)

theorem presentText {text : Option String}
    (hgiven : ∀ given ∈ text, ∀ c ∈ given.toList, report.Gives source c) :
    ∀ given ∈ Diagnostics.presentText text, report.MakesUp source given.toList :=
  fun given hpresent c hc => .inl (hgiven given (Option.mem_filter_iff.mp hpresent).1 c hc)

theorem noteText {note : Option String}
    (hgiven : ∀ text ∈ note, ∀ c ∈ text.toList, report.Gives source c) :
    report.MakesUp source (Diagnostics.noteText note).toList := by
  cases note with
  | none => exact of_typewritten (by decide)
  | some text => exact fun c hc => .inl (hgiven text rfl c hc)

theorem expand (tabWidth : Int) {label : DrawnLabel} (hlabel : label ∈ drawnLabels report source) :
    report.MakesUp source
      (Text.trimRight (Diagnostics.expand tabWidth (source.textAt label.line))) := by
  intro c hc
  by_cases hspace : c = ' '
  · right
    rw [hspace]
    decide
  · obtain ⟨hmem, hblank⟩ := mem_of_mem_expandFrom hspace (mem_of_mem_trimRight hc)
    exact .inl (.line hlabel hmem hblank)

/-! ### Texts of rows -/

variable (report source)

theorem headerLabel : report.MakesUp source (Diagnostics.headerLabel report).toList := by
  have hkind : report.MakesUp source report.kind.name.toList := fun c hc => .inl (.kind hc)
  rw [Diagnostics.headerLabel]
  split
  case h_1 code hpresent =>
    have hcode : report.MakesUp source code.toList :=
      presentText (fun _ hgiven _ hc => .code hgiven hc) code hpresent
    exact ((hkind.append (of_typewritten (by decide))).append hcode).append
      (of_typewritten (by decide))
  case h_2 => exact hkind

theorem headerMsg :
    report.MakesUp source ((Diagnostics.presentText report.msg).getD "").toList := by
  cases hpresent : Diagnostics.presentText report.msg with
  | none => exact List.forall_mem_nil _
  | some msg => exact presentText (fun _ hgiven _ hc => .msg hgiven hc) msg hpresent

theorem locationReference :
    report.MakesUp source (Diagnostics.locationReference report source).toList := by
  have hname : report.MakesUp source (sourceName report.span.source).toList :=
    fun c hc => .inl (.source hc)
  have hcolon : report.MakesUp source ":".toList := of_typewritten (by decide)
  rw [Diagnostics.locationReference]
  split
  · exact (((hname.append hcolon).append (number _)).append hcolon).append (number _)
  · exact hname.append (of_typewritten (by decide))

variable {report source}

theorem labelRows {label : DrawnLabel} (hlabel : label ∈ drawnLabels report source) {row : Row}
    (hrow : row ∈ Diagnostics.labelRows label) :
    ∀ text ∈ row.texts, report.MakesUp source text := by
  obtain rfl | harrow := List.mem_cons.mp hrow
  · exact List.forall_mem_nil _
  · obtain ⟨msg, hpresent, rfl⟩ := List.mem_map.mp harrow
    exact List.forall_mem_singleton.mpr
      (presentText (fun _ hgiven _ hc => .labelMsg hlabel hgiven hc) msg
        (Option.mem_toList.mp hpresent))

/-- All texts of the rows are made up of what is given. -/
theorem of_mem_rows {elideAfter : Int} {row : Row} (hrow : row ∈ rows report source elideAfter) :
    ∀ text ∈ row.texts, report.MakesUp source text := by
  obtain ⟨body, hbody, hshows⟩ := exists_body report source elideAfter
  rw [hbody] at hrow
  simp only [List.mem_append, List.mem_cons, List.not_mem_nil, or_false, List.mem_map] at hrow
  obtain (hhead | hbelow) | hend := hrow
  · obtain rfl | rfl | rfl := hhead
    · exact List.forall_mem_cons.mpr
        ⟨headerLabel report source, List.forall_mem_singleton.mpr (headerMsg report source)⟩
    · exact List.forall_mem_singleton.mpr (locationReference report source)
    · exact List.forall_mem_nil _
  · obtain rfl | ⟨line, hline, rfl⟩ | ⟨label, hlabel, hlabelRow⟩ := hshows.mem_cases hbelow
    · exact List.forall_mem_nil _
    · obtain ⟨label, hlabel, rfl⟩ := mem_labelledLines.mp hline
      exact List.forall_mem_singleton.mpr (expand _ hlabel)
    · exact labelRows hlabel hlabelRow
  · obtain rfl | ⟨note, hnote, rfl⟩ | ⟨help, hhelp, rfl⟩ := hend
    · exact List.forall_mem_nil _
    · exact List.forall_mem_singleton.mpr (noteText fun _ htext _ hc => .note hnote htext hc)
    · exact List.forall_mem_singleton.mpr (noteText fun _ htext _ hc => .help hhelp htext hc)

end Report.MakesUp

end Diagnostics
