import Mathlib.Data.List.Forall2
import Diagnostics.CommandLine.Run
import Diagnostics.Proofs.Keyed

/-!
# Arguments that are accepted

Arguments are accepted if they ask for a command and every value that is given for it is
fine. Accepted arguments always make a command; its files are there, and a tab width that
it gives is positive.
-/

namespace Diagnostics.CommandLine

/-! ### Values that are fine -/

variable {tree : FileTree} {form : Form} {items : List Item}

theorem ofBool_eq_fine_iff {isFine : Bool} : Verdict.ofBool isFine = .fine ↔ isFine = true := by
  cases isFine <;> simp [Verdict.ofBool]

theorem mem_givenOptions_of_valueOf? {name text : String}
    (hvalue : valueOf? items name = some text) : name ∈ givenOptions items := by
  have hmem := List.mem_of_getLast? hvalue
  obtain ⟨item, hitem, hname⟩ := List.mem_filterMap.mp hmem
  rw [givenOptions, List.mem_eraseDups, List.mem_filterMap]
  refine ⟨item, hitem, ?_⟩
  cases item with
  | value other text =>
      have hother : other = name := by
        by_contra hne
        simp [hne] at hname
      exact congrArg some hother
  | _ => cases hname

/-- A value can be read if its text can, and if it is not given. -/
theorem exists_readValue? (name : String) {read? : String → Option α}
    (hread : ∀ text, valueOf? items name = some text → ∃ value, read? text = some value) :
    ∃ value, readValue? items name read? = some value ∧
      ∀ given, value = some given → ∃ text, read? text = some given := by
  rw [readValue?]
  cases hvalue : valueOf? items name with
  | none => exact ⟨none, rfl, nofun⟩
  | some text =>
      obtain ⟨value, hfound⟩ := hread text hvalue
      refine ⟨some value, congrArg (Option.map some) hfound, fun given hgiven => ⟨text, ?_⟩⟩
      rw [hfound, hgiven]

/-- The files of a rendering are there, and a tab width that is given is one. -/
structure RenderArguments.Sound (tree : FileTree) (arguments : RenderArguments) : Prop where
  noNull : hasNull arguments.source = false
  source : ∃ bytes, tree.bytesAt? arguments.source = some bytes
  diagnostics : ∃ bytes, tree.bytesAt? arguments.diagnostics = some bytes
  config : ∀ path, arguments.config = some path → ∃ bytes, tree.bytesAt? path = some bytes
  tabWidth : ∀ width, arguments.tabWidth = some width → 1 ≤ width

/-- The files of the command are there. -/
def Command.Sound (tree : FileTree) : Command → Prop
  | .render arguments => arguments.Sound tree
  | .lines file => ∃ bytes, tree.bytesAt? file = some bytes
  | .locate file _ _ => ∃ bytes, tree.bytesAt? file = some bytes

variable [Platform]

theorem judgeOperands_fine_iff {kinds : List ValueKind} {texts : List String} :
    (∀ verdict ∈ Form.judgeOperands tree kinds texts, verdict = .fine) ↔
      List.Forall₂ (fun kind text => kind.judge tree text = .fine) kinds texts := by
  induction kinds generalizing texts with
  | nil => cases texts <;> simp [Form.judgeOperands]
  | cons kind kinds ih =>
      cases texts with
      | nil => simp [Form.judgeOperands]
      | cons text texts =>
          rw [Form.judgeOperands, List.forall_mem_cons, List.forall₂_cons, ih]

/-- What is established of values that are fine. -/
structure Judged (tree : FileTree) (form : Form) (items : List Item) : Prop where
  option : ∀ {name text kind}, Keyed.find? form.options name = some kind →
    valueOf? items name = some text → kind.judge tree text = .fine
  operands : List.Forall₂ (fun kind text => kind.judge tree text = .fine) form.operandKinds
    (operands items)

theorem judged_of_fine (hfine : form.judge tree items = .fine) : Judged tree form items := by
  rw [Form.judge, Verdict.all_eq_fine_iff, List.forall_mem_append, List.forall_mem_map,
    judgeOperands_fine_iff] at hfine
  refine ⟨fun {name text kind} hkind hvalue => ?_, hfine.2⟩
  have hjudge := hfine.1 name (mem_givenOptions_of_valueOf? hvalue)
  rwa [Form.judgeOption, hkind, hvalue] at hjudge

theorem fine_of_operands (hoptions : givenOptions items = [])
    (hoperands : List.Forall₂ (fun kind text => kind.judge tree text = .fine) form.operandKinds
      (operands items)) : form.judge tree items = .fine := by
  rw [Form.judge, hoptions, Verdict.all_eq_fine_iff]
  exact judgeOperands_fine_iff.mpr hoperands

theorem exists_bytesAt?_of_judge {path : String}
    (hfine : ValueKind.judge tree path .file = .fine) :
    hasNull path = false ∧ ∃ bytes, tree.bytesAt? path = some bytes := by
  rw [ValueKind.judge] at hfine
  split at hfine
  case isTrue => cases hfine
  case isFalse hnull =>
    rw [ofBool_eq_fine_iff, Option.isSome_iff_exists] at hfine
    exact ⟨eq_false_of_ne_true hnull, hfine⟩

theorem exists_find?_of_judge {names : List (String × α)} {text : String}
    (hfine : ValueKind.judge tree text (.oneOf (names.map Prod.fst)) = .fine) :
    ∃ value, Keyed.find? names text = some value := by
  rw [ValueKind.judge, ofBool_eq_fine_iff, List.contains_iff_mem] at hfine
  rw [← Option.ne_none_iff_exists', ne_eq, Keyed.find?_eq_none_iff]
  exact not_not_intro hfine

theorem exists_readInteger?_of_judge {text : String}
    (hfine : ValueKind.judge tree text .integer = .fine) : ∃ n, readInteger? text = some n := by
  rwa [ValueKind.judge, ofBool_eq_fine_iff, Option.isSome_iff_exists] at hfine

theorem exists_readPositive?_of_judge {text : String}
    (hfine : ValueKind.judge tree text .positive = .fine) : ∃ n, readPositive? text = some n := by
  rwa [ValueKind.judge, ofBool_eq_fine_iff, Option.isSome_iff_exists] at hfine

theorem pos_of_readPositive? {text : String} {n : Int} (hread : readPositive? text = some n) :
    1 ≤ n := by
  simpa using (Option.filter_eq_some_iff.mp hread).2

/-! ### Commands of accepted arguments -/

/-- The arguments ask for the command, and all values given for it are fine. -/
def Accepted (tree : FileTree) (args : List String) (command : Command) : Prop :=
  ∃ name items, readRequest args = .command name items ∧ name.form.judge tree items = .fine ∧
    name.read? items = some command

theorem run_of_accepted {tree : FileTree} {args : List String} {command : Command}
    (haccepted : Accepted tree args command) (terminals : Terminals) :
    run tree terminals args = runCommand tree terminals command := by
  obtain ⟨name, items, hrequest, hfine, hread⟩ := haccepted
  rw [run, hrequest]
  change runItems tree terminals name items = _
  rw [runItems, hfine, hread]
  rfl

theorem exists_render_of_judged (hjudged : Judged tree CommandName.render.form items) :
    ∃ command, readRender? items = some command ∧ command.Sound tree := by
  obtain ⟨unit, hunit, -⟩ := exists_readValue? "--index-type" fun text htext =>
    exists_find?_of_judge (hjudged.option rfl htext)
  obtain ⟨attach, hattach, -⟩ := exists_readValue? "--attach" fun text htext =>
    exists_find?_of_judge (hjudged.option rfl htext)
  obtain ⟨width, hwidth, hpositive⟩ := exists_readValue? "--tab-width" fun text htext =>
    exists_readPositive?_of_judge (hjudged.option rfl htext)
  obtain ⟨offset, hoffset, -⟩ := exists_readValue? "--line-offset" fun text htext =>
    exists_readInteger?_of_judge (hjudged.option rfl htext)
  obtain ⟨source, others, hsource, hothers, htexts⟩ :=
    List.forall₂_cons_left_iff.mp hjudged.operands
  obtain ⟨diagnostics, none, hdiagnostics, hnone, rfl⟩ := List.forall₂_cons_left_iff.mp hothers
  obtain rfl := List.forall₂_nil_left_iff.mp hnone
  obtain ⟨hnull, hsource⟩ := exists_bytesAt?_of_judge hsource
  refine ⟨_, by simp only [readRender?, hunit, hattach, hwidth, hoffset, htexts]; rfl, ?_⟩
  exact
    { noNull := hnull
      source := hsource
      diagnostics := (exists_bytesAt?_of_judge hdiagnostics).2
      config := fun path hpath => (exists_bytesAt?_of_judge (hjudged.option rfl hpath)).2
      tabWidth := fun given hgiven => by
        obtain ⟨text, hread⟩ := hpositive given hgiven
        exact pos_of_readPositive? hread }

theorem exists_lines_of_judged (hjudged : Judged tree CommandName.lines.form items) :
    ∃ command, readLines? items = some command ∧ command.Sound tree := by
  obtain ⟨file, others, hfile, hothers, htexts⟩ := List.forall₂_cons_left_iff.mp hjudged.operands
  obtain rfl := List.forall₂_nil_left_iff.mp hothers
  exact ⟨.lines file, by rw [readLines?, htexts], (exists_bytesAt?_of_judge hfile).2⟩

theorem exists_locate_of_judged (hjudged : Judged tree CommandName.locate.form items) :
    ∃ command, readLocate? items = some command ∧ command.Sound tree := by
  obtain ⟨unit, hunit, -⟩ := exists_readValue? "--index-type" fun text htext =>
    exists_find?_of_judge (hjudged.option rfl htext)
  obtain ⟨file, others, hfile, hothers, htexts⟩ := List.forall₂_cons_left_iff.mp hjudged.operands
  obtain ⟨offset, none, hoffset, hnone, rfl⟩ := List.forall₂_cons_left_iff.mp hothers
  obtain rfl := List.forall₂_nil_left_iff.mp hnone
  obtain ⟨n, hn⟩ := exists_readInteger?_of_judge hoffset
  exact ⟨.locate file n (unit.getD .char), by simp only [readLocate?, hunit, htexts, hn]; rfl,
    (exists_bytesAt?_of_judge hfile).2⟩

/-- Values that are all fine make a command. -/
theorem exists_command_of_fine {name : CommandName} (hfine : name.form.judge tree items = .fine) :
    ∃ command, name.read? items = some command ∧ command.Sound tree := by
  have hjudged := judged_of_fine hfine
  cases name with
  | render => exact exists_render_of_judged hjudged
  | lines => exact exists_lines_of_judged hjudged
  | locate => exact exists_locate_of_judged hjudged

theorem Accepted.sound {args : List String} {command : Command}
    (haccepted : Accepted tree args command) : command.Sound tree := by
  obtain ⟨name, items, -, hfine, hread⟩ := haccepted
  obtain ⟨other, hother, hsound⟩ := exists_command_of_fine hfine
  rw [hread] at hother
  exact Option.some.inj hother ▸ hsound

end Diagnostics.CommandLine
