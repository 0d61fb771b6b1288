import Diagnostics.Proofs.Config.Layered
import Diagnostics.Proofs.Text.Plain

/-!
# Values that suit their options

A choice is given by a member of its own set or by a value whose plain text is the name of one in
any letter case, a number by an integer that is no truth value, and all other options by a truth
value. Settings are laid over options as a whole if all their names are known and all
their values suit, and as long as the result is within the ranges.
-/

namespace Diagnostics

open Text

inductive OptionKind where
  | choice
  | number
  | flag

/-- The option that chooses from the set of the member. -/
def Choice.key : Choice → OptionKey
  | attach _ => .labelAttach
  | charSet _ => .charSet
  | offsetUnit _ => .offsetUnit
  | ansiMode _ => .ansiMode

namespace OptionKey

def kind : OptionKey → OptionKind
  | labelAttach | charSet | offsetUnit | ansiMode => .choice
  | tabWidth | contextLines => .number
  | _ => .flag

def Accepts (key : OptionKey) (value : Value) : Prop :=
  match key.kind with
  | .choice =>
      (∃ choice : Choice, choice.key = key ∧ value = .choice choice) ∨
        lower value.plain ∈ key.choiceNames
  | .number => ∃ n, value = .int n
  | .flag => ∃ truth, value = .bool truth

/-- What is wrong with a value that does not suit the option. -/
def refusal (key : OptionKey) (value : Value) : ConfigError :=
  match key.kind with
  | .choice => .notOneOf key value
  | .number => .notInteger key value
  | .flag => .notBoolean key value

theorem ofName?_eq_some_iff {name : String} {key : OptionKey} :
    ofName? name = some key ↔ key.name = name := by
  refine ⟨name_of_ofName?, ?_⟩
  rintro rfl
  exact ofName?_name key

end OptionKey

section Decides

variable {ε α β : Type}

/-- Something comes out exactly if the condition holds, and otherwise the refusal. -/
structure Decides (p : Prop) (refusal : ε) (result : Except ε α) : Prop where
  accepted : p → ∃ a, result = .ok a
  refused : ¬p → result = .error refusal

theorem Decides.map {p : Prop} {refusal : ε} {result : Except ε α}
    (hresult : Decides p refusal result) (change : α → β) :
    Decides p refusal (result.map change) where
  accepted hp := by
    obtain ⟨a, ha⟩ := hresult.accepted hp
    exact ⟨change a, map_eq_ok_iff.mpr ⟨a, ha, rfl⟩⟩
  refused hp := map_eq_error_iff.mpr (hresult.refused hp)

theorem Decides.of_iff {p q : Prop} {refusal : ε} {result : Except ε α}
    (hresult : Decides q refusal result) (hiff : p ↔ q) : Decides p refusal result := by
  rwa [hiff]

theorem decides_found (found : Option α) (refusal : ε) :
    Decides found.isSome refusal
      (match found with
        | some a => .ok a
        | none => .error refusal) := by
  cases found with
  | none => exact ⟨nofun, fun _ => rfl⟩
  | some a => exact ⟨fun _ => ⟨a, rfl⟩, fun hnone => absurd rfl hnone⟩

end Decides

namespace Options

variable {key : OptionKey} {value : Value}

theorem decides_readBool :
    Decides (∃ truth, value = .bool truth) (.notBoolean key value) (readBool key value) where
  accepted := by
    rintro ⟨truth, rfl⟩
    exact ⟨truth, rfl⟩
  refused hother := by
    unfold readBool
    split
    · exact absurd ⟨_, rfl⟩ hother
    · rfl

theorem decides_readInt :
    Decides (∃ n, value = .int n) (.notInteger key value) (readInt key value) where
  accepted := by
    rintro ⟨n, rfl⟩
    exact ⟨n, rfl⟩
  refused hother := by
    unfold readInt
    split
    · exact absurd ⟨_, rfl⟩ hother
    · rfl

/-- No value but a text has the plain text of a word among the names. -/
theorem decides_readMember {α : Type} {names : List (String × α)} {member? : Choice → Option α}
    (hnames : ∀ name ∈ names.map Prod.fst, IsWord name ∧ name ∉ valueWords)
    (hmember : ∀ choice, (member? choice).isSome ↔ choice.key = key) :
    Decides ((∃ choice : Choice, choice.key = key ∧ value = .choice choice) ∨
        lower value.plain ∈ names.map Prod.fst)
      (.notOneOf key value) (readMember names member? key value) := by
  have hother : (∀ text, value ≠ .text text) → lower value.plain ∉ names.map Prod.fst := by
    intro hvalue hmem
    obtain ⟨hword, hnew⟩ := hnames _ hmem
    exact (Value.lower_plain hvalue).elim hnew fun hnot => hnot hword
  cases value with
  | text text =>
      refine (decides_found (Keyed.find? names (lower text)) _).of_iff ?_
      rw [or_iff_right (by simp), Option.isSome_iff_ne_none, ne_eq, Keyed.find?_eq_none_iff,
        not_not]
      rfl
  | choice choice =>
      refine (decides_found (member? choice) _).of_iff ?_
      rw [or_iff_left (hother nofun), hmember]
      simp
  | _ =>
      refine (decides_found none _).of_iff ?_
      rw [or_iff_left (hother nofun)]
      simp

theorem decides_set (options : Options) (key : OptionKey) (value : Value) :
    Decides (key.Accepts value) (key.refusal value) (options.set key value) := by
  cases key
  case crossGap | compact | underlines | multilineArrows | color | minimiseCrossings |
      enumerateNotes | enumerateHelps => exact decides_readBool.map _
  case tabWidth | contextLines => exact decides_readInt.map _
  case labelAttach | charSet | offsetUnit | ansiMode =>
    refine (decides_readMember (by decide) fun choice => ?_).map _
    cases choice <;> simp [Choice.key]

end Options

/-! ### Settings as a whole -/

namespace Settings

/-- All names are names of options. -/
def Known (settings : Settings) : Prop :=
  ∀ name ∈ Keyed.keys settings, ∃ key : OptionKey, key.name = name

/-- All values suit their options. -/
def Suit (settings : Settings) : Prop :=
  ∀ (key : OptionKey) (value : Value), (key.name, value) ∈ settings → key.Accepts value

theorem known_iff (settings : Settings) : settings.Known ↔ unknownNames settings = [] := by
  rw [unknownNames_eq_nil_iff]
  simp only [OptionKey.ofName?_eq_some_iff, Known]

/-- Either all values suit, or there is a first one that does not. -/
theorem suit_or_refused (settings : Settings) :
    settings.Suit ∨ ∃ (front back : Settings) (key : OptionKey) (value : Value),
      settings = front ++ (key.name, value) :: back ∧ front.Suit ∧ ¬key.Accepts value := by
  induction settings with
  | nil => exact .inl nofun
  | cons setting rest ih =>
      obtain ⟨name, value⟩ := setting
      by_cases hfirst : ∀ key : OptionKey, key.name = name → key.Accepts value
      · have hcons : ∀ {others : Settings}, others.Suit →
            Settings.Suit ((name, value) :: others) := by
          intro others hothers key other hmem
          rcases List.mem_cons.mp hmem with heq | hmem
          · obtain ⟨hname, rfl⟩ := Prod.mk.inj heq
            exact hfirst key hname
          · exact hothers key other hmem
        refine ih.imp hcons ?_
        rintro ⟨front, back, key, other, rfl, hfront, hrefused⟩
        exact ⟨(name, value) :: front, back, key, other, rfl, hcons hfront, hrefused⟩
      · right
        push Not at hfirst
        obtain ⟨key, rfl, hrefused⟩ := hfirst
        exact ⟨[], rest, key, value, rfl, nofun, hrefused⟩

end Settings

theorem Options.setAll_of_refused (options : Options) {front back : Settings} {key : OptionKey}
    {value : Value} (hfront : front.Suit) (hrefused : ¬key.Accepts value) :
    options.setAll (front ++ (key.name, value) :: back) = .error (key.refusal value) := by
  induction front generalizing options with
  | nil =>
      rw [List.nil_append, setAll, OptionKey.ofName?_name]
      simp only [(options.decides_set key value).refused hrefused]
  | cons setting rest ih =>
      obtain ⟨name, other⟩ := setting
      have hrest : Settings.Suit rest := fun named value hmem =>
        hfront named value (List.mem_cons_of_mem _ hmem)
      rw [List.cons_append, setAll]
      split
      case h_1 => exact ih options hrest
      case h_2 named hnamed =>
        have hname := OptionKey.name_of_ofName? hnamed
        obtain ⟨changed, hchanged⟩ := (options.decides_set named other).accepted
          (hfront named other (hname ▸ List.mem_cons_self))
        rw [hchanged]
        exact ih changed hrest

namespace Options

/-- The value of an option where settings lie on options. -/
def valueUnder (base : Options) (settings : Settings) (key : OptionKey) : Value :=
  ((Keyed.find? settings key.name).map Value.settled).getD (base.value key)

variable (base : Options) {settings : Settings}

/-- Of settings that are known and suit, only the ranges are left to be checked. -/
theorem overlay_of_suit (hdistinct : (Keyed.keys settings).Nodup) (hknown : settings.Known)
    (hsuit : settings.Suit) :
    ∃ options : Options, (∀ key, options.value key = base.valueUnder settings key) ∧
      base.overlay settings = options.check := by
  have hsuits : ∀ key value, Keyed.find? settings key.name = some value →
      ∀ options : Options, ∃ changed, options.set key value = .ok changed := by
    intro key value hfind options
    exact (options.decides_set key value).accepted (hsuit key value (Keyed.mem_of_find? hfind))
  have hall : ∃ options, base.setAll settings = .ok options := exists_setAll hdistinct hsuits
  obtain ⟨options, hset⟩ := hall
  refine ⟨options, value_of_setAll hdistinct hset, ?_⟩
  rw [overlay, settings.known_iff.mp hknown, hset]

theorem overlay_of_unknown (hunknown : ¬settings.Known) :
    base.overlay settings = .error (.unknown (unknownNames settings)) := by
  rw [Settings.known_iff] at hunknown
  rw [overlay]
  split
  case h_1 hnil => exact absurd hnil hunknown
  case h_2 => rfl

theorem overlay_of_refused {front back : Settings} {key : OptionKey} {value : Value}
    (hknown : settings.Known) (hsettings : settings = front ++ (key.name, value) :: back)
    (hfront : front.Suit) (hrefused : ¬key.Accepts value) :
    base.overlay settings = .error (key.refusal value) := by
  rw [overlay, settings.known_iff.mp hknown, hsettings, setAll_of_refused _ hfront hrefused]

end Options

end Diagnostics
