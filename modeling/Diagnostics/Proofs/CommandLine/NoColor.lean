import Diagnostics.Proofs.CommandLine.Accepted

/-!
# The flag that takes colours away

Wherever a rendering is asked for, the flag can be given as well, right behind the name of the
command. It asks for the same rendering without colours and changes nothing about which values are
fine.
-/

namespace Diagnostics.CommandLine

variable {arguments : RenderArguments} {args : List String}

/-- The same arguments with the flag. -/
def RenderArguments.uncolored (arguments : RenderArguments) : RenderArguments :=
  { arguments with noColor := true }

/-- The arguments with the flag right behind the name of the command. -/
def withNoColor (args : List String) : List String :=
  args.insertIdx (if args.head? = some "--" then 2 else 1) "--no-color"

/-! ### Arguments that name a command -/

theorem readCommand_eq_command_iff {name other : CommandName} {items : List Item} :
    readCommand name args = .command other items ↔
      name = other ∧ name.form.grammar.scan? args = some items ∧
        hasFlag items "--help" = false := by
  rw [readCommand]
  cases name.form.grammar.scan? args with
  | none => simp
  | some scanned =>
      cases hhelp : hasFlag scanned "--help" with
      | true =>
          simp only [hhelp, if_true, reduceCtorEq, Option.some.injEq, false_iff]
          rintro ⟨-, rfl, hnone⟩
          rw [hhelp] at hnone
          cases hnone
      | false =>
          simp only [hhelp, Bool.false_eq_true, if_false, Request.command.injEq, Option.some.injEq]
          constructor
          · rintro ⟨rfl, rfl⟩
            exact ⟨rfl, rfl, hhelp⟩
          · rintro ⟨rfl, rfl, -⟩
            exact ⟨rfl, rfl⟩

theorem readNamed_eq_render_iff {word : String} {items : List Item} :
    readNamed word args = .command .render items ↔
      word = "render" ∧ readCommand .render args = .command .render items := by
  constructor
  · intro hread
    rw [readNamed] at hread
    split at hread
    case h_1 name hname =>
      obtain ⟨rfl, -⟩ := readCommand_eq_command_iff.mp hread
      have hword : word = "render" := by
        simpa [CommandName.names] using Keyed.mem_of_find? hname
      exact ⟨hword, hread⟩
    case h_2 =>
      rw [readUnknown] at hread
      split at hread <;> cases hread
  · rintro ⟨rfl, hread⟩
    exact hread

theorem operands_map_operand (texts : List String) : operands (texts.map .operand) = texts := by
  induction texts with
  | nil => rfl
  | cons text rest ih => exact congrArg (text :: ·) ih

theorem readMainFlags_map_operand (texts : List String) :
    readMainFlags (texts.map .operand) = none := by
  rw [readMainFlags, List.findSome?_eq_none_iff, List.forall_mem_map]
  exact fun _ _ => rfl

/-- Before the name of a command there are no options with a value. -/
theorem shape_mainGrammar (arg : String) :
    mainGrammar.shape arg = .operand ∨ mainGrammar.shape arg = .invalid ∨
      ∃ name, mainGrammar.shape arg = .flags [name] := by
  rw [Grammar.shape]
  split
  case h_1 c rest _ =>
    have hshort : mainGrammar.shortFlags (c :: rest) = .invalid := by
      simp [Grammar.shortFlags, Grammar.flagOf?, mainGrammar]
    dsimp only
    rw [if_neg (by simp [mainGrammar])]
    split
    case isTrue =>
      split
      · exact .inr (.inl rfl)
      · exact .inr (.inr ⟨_, rfl⟩)
    case isFalse =>
      split
      · exact .inr (.inl rfl)
      · exact .inr (.inl hshort)
  case h_2 => exact .inl rfl

theorem readRequest_of_operands {word : String} {rest : List String} (hargs : args ≠ [])
    (hscan : mainGrammar.scan? args = some ((word :: rest).map .operand)) :
    readRequest args = readNamed word rest := by
  rw [readRequest, if_neg (by simpa using hargs), hscan]
  dsimp only
  rw [readMainFlags_map_operand, operands_map_operand]

theorem readRequest_end (word : String) (rest : List String) :
    readRequest ("--" :: word :: rest) = readNamed word rest := by
  apply readRequest_of_operands (List.cons_ne_nil _ _)
  rw [Grammar.scan?, if_pos rfl]

theorem readRequest_word {word : String} (hne : word ≠ "--")
    (hshape : mainGrammar.shape word = .operand) (rest : List String) :
    readRequest (word :: rest) = readNamed word rest := by
  apply readRequest_of_operands (List.cons_ne_nil _ _)
  rw [Grammar.scan?, if_neg hne, hshape]
  rfl

/-- With an option in front, no command runs. -/
theorem readRequest_ne_command {first : String} (hne : first ≠ "--")
    (hshape : mainGrammar.shape first ≠ .operand) {rest : List String} {name : CommandName}
    {items : List Item} : readRequest (first :: rest) ≠ .command name items := by
  intro hread
  rw [readRequest, if_neg (by simp), Grammar.scan?, if_neg hne] at hread
  obtain hoperand | hinvalid | ⟨flag, hflag⟩ := shape_mainGrammar first
  · exact hshape hoperand
  · rw [hinvalid] at hread
    cases hread
  · rw [hflag] at hread
    cases hscan : mainGrammar.scan? rest with
    | none =>
        rw [hscan] at hread
        cases hread
    | some items =>
        rw [hscan] at hread
        change (if flag = "--version" then Request.version else .help) = _ at hread
        split at hread <;> cases hread

/-- Before the name of a command there may be the end of the options and nothing else. -/
theorem readRequest_eq_render_iff {items : List Item} :
    readRequest args = .command .render items ↔
      ∃ rest, (args = "render" :: rest ∨ args = "--" :: "render" :: rest) ∧
        readCommand .render rest = .command .render items := by
  constructor
  · intro hread
    cases args with
    | nil => cases hread
    | cons first rest =>
        by_cases hend : first = "--"
        · subst hend
          cases rest with
          | nil => cases hread
          | cons word rest =>
              rw [readRequest_end] at hread
              obtain ⟨rfl, hcommand⟩ := readNamed_eq_render_iff.mp hread
              exact ⟨rest, .inr rfl, hcommand⟩
        · by_cases hshape : mainGrammar.shape first = .operand
          · rw [readRequest_word hend hshape] at hread
            obtain ⟨rfl, hcommand⟩ := readNamed_eq_render_iff.mp hread
            exact ⟨rest, .inl rfl, hcommand⟩
          · exact absurd hread (readRequest_ne_command hend hshape)
  · rintro ⟨rest, rfl | rfl, hcommand⟩
    · have hshape : mainGrammar.shape "render" = .operand := by decide
      rw [readRequest_word (by decide) hshape, readNamed_eq_render_iff]
      exact ⟨rfl, hcommand⟩
    · rw [readRequest_end, readNamed_eq_render_iff]
      exact ⟨rfl, hcommand⟩

theorem scan?_noColor (args : List String) :
    CommandName.render.form.grammar.scan? ("--no-color" :: args) =
      (CommandName.render.form.grammar.scan? args).map (.flag "--no-color" :: ·) := by
  have hshape : CommandName.render.form.grammar.shape "--no-color" = .flags ["--no-color"] := by
    decide
  rw [Grammar.scan?, if_neg (by decide), hshape]
  rfl

variable [Platform] {tree : FileTree}

theorem judge_flag (form : Form) (name : String) (items : List Item) :
    form.judge tree (.flag name :: items) = form.judge tree items := rfl

theorem readRender?_noColor {items : List Item}
    (hread : readRender? items = some (.render arguments)) :
    readRender? (.flag "--no-color" :: items) = some (.render arguments.uncolored) := by
  have hvalue : ∀ {α : Type} (name : String) (read? : String → Option α),
      readValue? (.flag "--no-color" :: items) name read? = readValue? items name read? :=
    fun _ _ => rfl
  have hoperands : operands (.flag "--no-color" :: items) = operands items := rfl
  simp only [readRender?, Option.bind_eq_bind, Option.bind_eq_some_iff] at hread
  obtain ⟨unit, hunit, attach, hattach, width, hwidth, offset, hoffset, hrest⟩ := hread
  simp only [readRender?, hvalue, hunit, hattach, hwidth, hoffset, hoperands]
  split at hrest
  case h_1 source diagnostics hfiles =>
    obtain rfl := Command.render.inj (Option.some.inj hrest)
    simp [hasFlag, RenderArguments.uncolored, valueOf?]
  case h_2 => cases hrest

theorem eq_render_of_read? {name : CommandName} {items : List Item}
    (hread : name.read? items = some (.render arguments)) : name = .render := by
  cases name with
  | render => rfl
  | lines =>
      simp only [CommandName.read?, readLines?] at hread
      split at hread <;> cases hread
  | locate =>
      simp only [CommandName.read?, readLocate?, Option.bind_eq_bind,
        Option.bind_eq_some_iff] at hread
      obtain ⟨unit, -, hrest⟩ := hread
      split at hrest
      · obtain ⟨offset, -, hlocate⟩ := Option.bind_eq_some_iff.mp hrest
        cases hlocate
      · cases hrest

/-- The flag can always be given, and means what it says. -/
theorem Accepted.uncolored (haccepted : Accepted tree args (.render arguments)) :
    Accepted tree (withNoColor args) (.render arguments.uncolored) := by
  obtain ⟨name, items, hrequest, hfine, hread⟩ := haccepted
  obtain rfl := eq_render_of_read? hread
  obtain ⟨rest, hargs, hcommand⟩ := readRequest_eq_render_iff.mp hrequest
  obtain ⟨-, hscan, hhelp⟩ := readCommand_eq_command_iff.mp hcommand
  have hflagged : hasFlag (.flag "--no-color" :: items) "--help" = false := by
    simpa [hasFlag] using hhelp
  have hcommand' : readCommand .render ("--no-color" :: rest) =
      .command .render (.flag "--no-color" :: items) := by
    rw [readCommand_eq_command_iff, scan?_noColor, hscan]
    exact ⟨rfl, rfl, hflagged⟩
  refine ⟨.render, .flag "--no-color" :: items, ?_, (judge_flag ..).trans hfine,
    readRender?_noColor hread⟩
  rw [readRequest_eq_render_iff]
  refine ⟨"--no-color" :: rest, ?_, hcommand'⟩
  obtain rfl | rfl := hargs
  · exact .inl rfl
  · exact .inr rfl

end Diagnostics.CommandLine
