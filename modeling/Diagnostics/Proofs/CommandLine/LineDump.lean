import Diagnostics.Proofs.CommandLine.Encoding
import Diagnostics.Proofs.Text.Quoted

/-!
# Dumps of lines

A dump has one row for each line of a file, below a row with the counts. The text of a line is
quoted in its row, so that nothing in a file can break a row, add one, or be taken from it where
the output is no terminal. The first quote in a row is the one around the text of its line. So the
rows give the lines back, and the output gives the file back.
-/

namespace Diagnostics

/-- A control character, or one that separates lines or paragraphs. -/
def Text.BreaksRow (c : Char) : Prop :=
  c.toNat < 0x20 ∨ 0x7F ≤ c.toNat ∧ c.toNat < 0xA0 ∨ c = '\u2028' ∨ c = '\u2029'

namespace CommandLine

/-- Where a line starts and how long it is, as it is written. -/
def rangeText (line : Line) (unit : OffsetUnit) : List Char :=
  Text.decimal (line.start unit) ++ '+' :: Text.decimal (line.length unit)

/-- The rows show the lines of a text. -/
structure ShowsLines (text : List Char) (rows : List (List Char)) : Prop where
  count : rows.length = (splitLines text).length + 1
  unbroken : ∀ row ∈ rows, ∀ c ∈ row, ¬Text.BreaksRow c
  /-- The row of a line says which one it is, what it covers and what it holds. -/
  line : ∀ index piece, (splitLines text)[index]? = some piece →
    ∃ line, (Source.mk text 0).lines[index]? = some line ∧
      (Source.mk text 0).lineText? line = some piece ∧
      rows[index + 1]? = some
        (Text.padLeft 4 (Text.decimalNat index) ++ "  char ".toList ++ rangeText line .char ++
          "  byte ".toList ++ rangeText line .byte ++ "  ".toList ++ Text.quotedChars piece)

/-- Rows as they are written, each with a line end. -/
def writtenRows (rows : List (List Char)) : List Char :=
  rows.flatMap (· ++ ['\n'])

/-! ### Characters of rows -/

theorem not_breaksRow_of_isPrintable {c : Char} (hc : Text.isPrintable c) : ¬Text.BreaksRow c := by
  have hranges : ∀ range ∈ [(0, 0x1F), (0x7F, 0xA0), (0x2028, 0x202F)],
      range ∈ Text.unprintableRanges := by decide +kernel
  rw [Text.isPrintable, Bool.not_eq_true', Text.Ranges.contains, List.any_eq_false] at hc
  have hout : ∀ range ∈ [(0, 0x1F), (0x7F, 0xA0), (0x2028, 0x202F)],
      ¬(range.1 ≤ c.toNat ∧ c.toNat ≤ range.2) := fun range hrange => by
    simpa using hc range (hranges range hrange)
  simp only [List.forall_mem_cons] at hout
  obtain ⟨hlow, hhigh, hseparator, -⟩ := hout
  rintro (hcontrol | hcontrol | rfl | rfl)
  · omega
  · omega
  · exact hseparator (by decide)
  · exact hseparator (by decide)

def isQuote (c : Char) : Bool :=
  c = '\x22' || c = '\x27'

/-- The text can be typed and has no quotes. -/
def AllUnquoted (text : List Char) : Prop :=
  Text.AllTypewritten text ∧ text.all (!isQuote ·)

instance (text : List Char) : Decidable (AllUnquoted text) :=
  inferInstanceAs (Decidable (_ ∧ _))

theorem AllUnquoted.append {front back : List Char} (hfront : AllUnquoted front)
    (hback : AllUnquoted back) : AllUnquoted (front ++ back) := by
  refine ⟨List.forall_mem_append.mpr ⟨hfront.1, hback.1⟩, ?_⟩
  rw [List.all_append, hfront.2, hback.2, Bool.and_self]

theorem allUnquoted_decimal (n : Int) : AllUnquoted (Text.decimal n) := by
  refine ⟨Text.allTypewritten_decimal n, List.all_eq_true.mpr fun c hc => ?_⟩
  have hdecimal := Text.eq_minus_or_isDigit_of_mem_decimal hc
  rw [Bool.not_eq_true', isQuote, Bool.or_eq_false_iff, decide_eq_false_iff_not,
    decide_eq_false_iff_not]
  constructor <;> rintro rfl <;> exact absurd hdecimal (by decide)

/-- The part of a row in front of the text of its line. -/
def rowHead (index : Nat) (line : Line) : List Char :=
  Text.padLeft 4 (Text.decimalNat index) ++ "  char ".toList ++ rangeText line .char ++
    "  byte ".toList ++ rangeText line .byte ++ "  ".toList

theorem lineRow_eq (index : Nat) (line : Line) (piece : List Char) :
    lineRow index line piece = rowHead index line ++ Text.quotedChars piece := by
  simp [lineRow, rowHead, rangeText, Line.start, Line.length]

theorem allUnquoted_rowHead (index : Nat) (line : Line) : AllUnquoted (rowHead index line) := by
  have hblanks : ∀ count, AllUnquoted (List.replicate count ' ') := fun count =>
    ⟨fun c hc => by rw [List.eq_of_mem_replicate hc]; decide, by simp [isQuote]⟩
  have hindex : AllUnquoted (Text.padLeft 4 (Text.decimalNat index)) :=
    (hblanks _).append (allUnquoted_decimal index)
  have hplus : AllUnquoted ['+'] := by decide
  have hrange : ∀ unit, AllUnquoted (rangeText line unit) := fun unit =>
    (allUnquoted_decimal _).append (hplus.append (allUnquoted_decimal _))
  have hchar : AllUnquoted "  char ".toList := by decide
  have hbyte : AllUnquoted "  byte ".toList := by decide
  have hend : AllUnquoted "  ".toList := by decide
  exact ((((hindex.append hchar).append (hrange .char)).append hbyte).append (hrange .byte)).append
    hend

theorem allTypewritten_countsRow (source : Source) : Text.AllTypewritten (countsRow source) := by
  have hnumber : ∀ n : Nat, Text.AllTypewritten (Text.decimalNat n) := fun n =>
    Text.allTypewritten_decimal n
  have hlines : Text.AllTypewritten " lines, ".toList := by decide
  have hchars : Text.AllTypewritten " chars, ".toList := by decide
  have hbytes : Text.AllTypewritten " bytes".toList := by decide
  simp only [countsRow, Text.AllTypewritten, List.forall_mem_append]
  exact ⟨⟨⟨⟨⟨hnumber _, hlines⟩, hnumber _⟩, hchars⟩, hnumber _⟩, hbytes⟩

theorem getElem?_dumpRows (source : Source) (index : Nat) :
    (dumpRows source)[index + 1]? = source.pieces[index]?.map fun piece =>
      lineRow index (Line.after (source.textBefore index) piece) piece := by
  rw [dumpRows, List.getElem?_cons_succ, List.getElem?_mapIdx, List.zip, List.getElem?_zipWith,
    source.getElem?_lines]
  cases source.pieces[index]? <;> rfl

theorem isPrintable_of_mem_dumpRows (source : Source) :
    ∀ row ∈ dumpRows source, ∀ c ∈ row, Text.isPrintable c := by
  refine List.forall_mem_cons.mpr
    ⟨(allTypewritten_countsRow source).isPrintable, fun row hrow => ?_⟩
  obtain ⟨index, hindex, rfl⟩ := List.mem_mapIdx.mp hrow
  rw [lineRow_eq, List.forall_mem_append]
  exact ⟨(allUnquoted_rowHead _ _).1.isPrintable, fun _ => Text.isPrintable_of_mem_quotedChars⟩

/-! ### Reading rows back -/

/-- The text of a line stands behind everything else in its row. -/
theorem dropWhile_lineRow (index : Nat) (line : Line) (piece : List Char) :
    (lineRow index line piece).dropWhile (fun c => !isQuote c) = Text.quotedChars piece := by
  have hhead := List.all_eq_true.mp (allUnquoted_rowHead index line).2
  have hquote : isQuote (Text.quoteOf piece) := by
    obtain heq | heq := Text.quoteOf_cases piece <;> rw [heq] <;> rfl
  rw [lineRow_eq, List.dropWhile_append_of_pos hhead, Text.quotedChars]
  simp [hquote]

theorem eq_of_dumpRows_eq {source other : Source} (hrows : dumpRows source = dumpRows other) :
    source.text = other.text := by
  have hpieces : source.pieces = other.pieces := by
    apply List.ext_getElem?
    intro index
    have hrow := congrArg (·[index + 1]?) hrows
    simp only [getElem?_dumpRows] at hrow
    have hquoted := congrArg (Option.map (List.dropWhile fun c => !isQuote c)) hrow
    simp only [Option.map_map, Function.comp_def, dropWhile_lineRow] at hquoted
    exact Option.map_injective Text.quotedChars_injective hquoted
  rw [← flatten_splitLines source.text, ← flatten_splitLines other.text]
  exact congrArg List.flatten hpieces

/-- Rows that nothing breaks are told apart by their line ends. -/
theorem eq_of_writtenRows_eq {rows others : List (List Char)} (hrows : ∀ row ∈ rows, '\n' ∉ row)
    (hothers : ∀ row ∈ others, '\n' ∉ row) (hsame : writtenRows rows = writtenRows others) :
    rows = others := by
  refine eq_of_flatMap_eq (fun row => List.concat_ne_nil _ _) ?_ hsame
  intro row hrow other hother left right hboth
  rw [List.append_assoc, List.append_assoc] at hboth
  have hlength : row.length = other.length := by
    have hfirst := congrArg (List.idxOf '\n') hboth
    rw [List.idxOf_append_of_notMem (hrows row hrow),
      List.idxOf_append_of_notMem (hothers other hother)] at hfirst
    simpa using hfirst
  obtain ⟨rfl, hrest⟩ := List.append_inj hboth hlength
  exact ⟨rfl, List.append_cancel_left hrest⟩

/-! ### Dumps of files -/

theorem newline_not_mem_of_mem_dumpRows (source : Source) :
    ∀ row ∈ dumpRows source, '\n' ∉ row := fun row hrow hmem =>
  absurd (isPrintable_of_mem_dumpRows source row hrow _ hmem) (by decide)

theorem showsLines_dumpRows (text : List Char) : ShowsLines text (dumpRows { text }) where
  count := by
    rw [dumpRows, List.length_cons, List.length_mapIdx, List.length_zip, Source.length_lines,
      Nat.min_self]
    rfl
  unbroken row hrow c hc :=
    not_breaksRow_of_isPrintable (isPrintable_of_mem_dumpRows _ row hrow c hc)
  line index piece hpiece := by
    let source : Source := { text }
    have hpiece : source.pieces[index]? = some piece := hpiece
    have hline : source.lines[index]? = some (Line.after (source.textBefore index) piece) := by
      rw [source.getElem?_lines, hpiece]
      rfl
    refine ⟨_, hline, ?_, ?_⟩
    · rw [source.lineText?_of_mem hline, Source.textAt, hpiece]
      rfl
    · rw [getElem?_dumpRows, hpiece]
      exact congrArg some (lineRow_eq _ _ _)

section Platform

variable [Platform]

/-- Nothing in a row is taken for an escape sequence. -/
theorem run_of_lines {tree : FileTree} {args : List String} {file : String} {bytes : List UInt8}
    {text : List Char} (haccepted : Accepted tree args (.lines file))
    (hbytes : tree.bytesAt? file = some bytes) (hdecode : Utf8.decode bytes = .ok text)
    (terminals : Terminals) :
    run tree terminals args =
      .finished { status := 0, stdout := writtenRows (dumpRows { text }) } := by
  have hecho : (dumpRows { text }).flatMap (echo terminals.stdout) =
      writtenRows (dumpRows { text }) :=
    List.flatMap_congr fun row hrow => echo_of_escapeFree
      (fun hmem => absurd (isPrintable_of_mem_dumpRows _ row hrow _ hmem) (by decide)) _
  rw [run_of_accepted haccepted, ← hecho]
  simp only [runCommand, hbytes, readSource, hdecode]
  rfl

/-- The output shows every line of the file, and no other file has the same output. -/
theorem run_showsLines {tree : FileTree} {args : List String} {file : String}
    {bytes : List UInt8} (haccepted : Accepted tree args (.lines file))
    (hbytes : tree.bytesAt? file = some bytes) (hformed : Utf8.WellFormed bytes) :
    ∃ text rows, Utf8.encode text = bytes ∧ ShowsLines text rows ∧
      (∀ terminals, run tree terminals args =
        .finished { status := 0, stdout := writtenRows rows, stderr := [] }) ∧
      ∀ otherTree otherArgs otherFile otherBytes terminals output,
        Accepted otherTree otherArgs (.lines otherFile) →
        otherTree.bytesAt? otherFile = some otherBytes →
        run otherTree terminals otherArgs = .finished output →
        output.stdout = writtenRows rows → otherBytes = bytes := by
  obtain ⟨text, hdecode⟩ := Utf8.exists_decode_eq_ok_iff.mpr hformed
  refine ⟨text, dumpRows { text }, Utf8.decode_eq_ok_iff.mp hdecode, showsLines_dumpRows text,
    run_of_lines haccepted hbytes hdecode, ?_⟩
  intro otherTree otherArgs otherFile otherBytes terminals output hother hotherBytes hrun hstdout
  cases hotherDecode : Utf8.decode otherBytes with
  | error cause =>
      -- Nothing is written about a file that is not read, and a dump has at least one row.
      rw [run_of_encodingError hother rfl hotherBytes hotherDecode] at hrun
      obtain rfl := Outcome.finished.inj hrun
      simp [writtenRows, dumpRows] at hstdout
  | ok otherText =>
      rw [run_of_lines hother hotherBytes hotherDecode] at hrun
      obtain rfl := Outcome.finished.inj hrun
      have hrows := eq_of_writtenRows_eq (newline_not_mem_of_mem_dumpRows _)
        (newline_not_mem_of_mem_dumpRows _) hstdout
      have htext : otherText = text := eq_of_dumpRows_eq hrows
      rw [← Utf8.decode_eq_ok_iff.mp hdecode, ← Utf8.decode_eq_ok_iff.mp hotherDecode, htext]

end Platform

/-- The second line looks like a row of a dump, and there is an escape sequence in it. -/
def forgedText : List Char :=
  "it's\r\n   1  char 6+0  byte 6+0  ''\x1b[2K\u2028\"\\".toList

def forgedTree : FileTree where
  files := [(["main.src"], Utf8.encode forgedText)]

theorem run_showsLines_forgedText :
    forgedTree.bytesAt? "main.src" = some (Utf8.encode forgedText) ∧
      ∃ rows, ShowsLines forgedText rows ∧ rows.length = 4 ∧
        run forgedTree ⟨false, false⟩ ["lines", "main.src"] =
          .finished { status := 0, stdout := writtenRows rows } := by
  have hbytes : forgedTree.bytesAt? "main.src" = some (Utf8.encode forgedText) := by
    decide +kernel
  have haccepted : Accepted forgedTree ["lines", "main.src"] (.lines "main.src") :=
    ⟨.lines, [.operand "main.src"], by decide +kernel, by decide +kernel, rfl⟩
  have hdecode : Utf8.decode (Utf8.encode forgedText) = .ok forgedText :=
    Utf8.decode_eq_ok_iff.mpr rfl
  obtain ⟨text, rows, htext, hshows, hrun, -⟩ := run_showsLines haccepted hbytes
    (Utf8.exists_decode_eq_ok_iff.mp ⟨_, hdecode⟩)
  obtain rfl : text = forgedText :=
    Except.ok.inj ((Utf8.decode_eq_ok_iff.mpr htext).symm.trans hdecode)
  exact ⟨hbytes, rows, hshows, hshows.count.trans (by decide +kernel), hrun _⟩

end CommandLine

end Diagnostics
