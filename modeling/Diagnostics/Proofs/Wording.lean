import Diagnostics.Config.Overlay
import Diagnostics.Label
import Diagnostics.Proofs.Extent

/-!
# Errors that can be put into words

An error is reported with a message if what the message shows can be put into words: the value that
does not suit an option, or the ends of a label. A value can be if it is not nested too deep and no
number in it has too many digits. Otherwise the error is lost, and a fault takes its place.
-/

namespace Diagnostics

/-! ### The first of two faults -/

theorem orElse_eq_none_iff {first second : Option Fault} :
    (first <|> second) = none ↔ first = none ∧ second = none := by
  rw [Option.orElse_eq_orElse, Option.orElse_eq_or, Option.or_eq_none_iff]

theorem eq_some_of_orElse {first second : Option Fault} {fault : Fault}
    (hfault : (first <|> second) = some fault) : first = some fault ∨ second = some fault := by
  rw [Option.orElse_eq_orElse, Option.orElse_eq_or, Option.or_eq_some_iff] at hfault
  exact hfault.imp_right And.right

/-! ### Values -/

namespace Value

/-- The value is no number and has no parts. -/
def isSimple : Value → Bool
  | .int _ | .list _ | .table _ => false
  | _ => true

variable [Platform]

/-- The value is nested less than `room` deep, and all numbers in it can be written. -/
inductive Showable : (room : Nat) → Value → Prop
  | simple {room value} (hsimple : value.isSimple) : Showable (room + 1) value
  | int {room n} (hfits : FitsDigits n) : Showable (room + 1) (.int n)
  | list {room items} (inside : ∀ item ∈ items, Showable room item) :
      Showable (room + 1) (.list items)
  | table {room entries} (keys : ∀ entry ∈ entries, Showable room entry.1)
      (values : ∀ entry ∈ entries, Showable room entry.2) : Showable (room + 1) (.table entries)

theorem showable_int_iff {room : Nat} {n : Int} :
    Showable (room + 1) (.int n) ↔ FitsDigits n := by
  refine ⟨fun hshown => ?_, .int⟩
  cases hshown with
  | simple hsimple => cases hsimple
  | int hfits => exact hfits

theorem showable_list_iff {room : Nat} {items : List Value} :
    Showable (room + 1) (.list items) ↔ ∀ item ∈ items, Showable room item := by
  refine ⟨fun hshown => ?_, .list⟩
  cases hshown with
  | simple hsimple => cases hsimple
  | list inside => exact inside

theorem showable_table_iff {room : Nat} {entries : List (Value × Value)} :
    Showable (room + 1) (.table entries) ↔
      ∀ entry ∈ entries, Showable room entry.1 ∧ Showable room entry.2 := by
  refine ⟨fun hshown => ?_, fun hentries =>
    .table (fun entry hentry => (hentries entry hentry).1)
      fun entry hentry => (hentries entry hentry).2⟩
  cases hshown with
  | simple hsimple => cases hsimple
  | table keys values => exact fun entry hentry => ⟨keys entry hentry, values entry hentry⟩

mutual

theorem shownFault?_eq_none_iff :
    ∀ (room : Nat) (value : Value), shownFault? room value = none ↔ value.Showable room
  | 0, value => by
      rw [shownFault?]
      exact iff_of_false nofun fun hshown => by cases hshown
  | room + 1, .int n => by rw [shownFault?, numberFault?_eq_none_iff, showable_int_iff]
  | room + 1, .list items => by rw [shownFault?, itemsFault?_eq_none_iff, showable_list_iff]
  | room + 1, .table entries => by
      rw [shownFault?, entriesFault?_eq_none_iff, showable_table_iff]
  | room + 1, .null | room + 1, .bool _ | room + 1, .float _ | room + 1, .text _
  | room + 1, .moment _ | room + 1, .choice _ => iff_of_true rfl (.simple rfl)

theorem itemsFault?_eq_none_iff : ∀ (room : Nat) (items : List Value),
    itemsFault? room items = none ↔ ∀ item ∈ items, item.Showable room
  | room, [] => iff_of_true rfl (List.forall_mem_nil _)
  | room, value :: rest => by
      rw [itemsFault?, orElse_eq_none_iff, shownFault?_eq_none_iff, itemsFault?_eq_none_iff,
        List.forall_mem_cons]

theorem entriesFault?_eq_none_iff : ∀ (room : Nat) (entries : List (Value × Value)),
    entriesFault? room entries = none ↔
      ∀ entry ∈ entries, entry.1.Showable room ∧ entry.2.Showable room
  | room, [] => iff_of_true rfl (List.forall_mem_nil _)
  | room, (key, value) :: rest => by
      rw [entriesFault?, orElse_eq_none_iff, orElse_eq_none_iff, shownFault?_eq_none_iff,
        shownFault?_eq_none_iff, entriesFault?_eq_none_iff, List.forall_mem_cons, and_assoc]

end

mutual

theorem shownFault?_eq_some : ∀ (room : Nat) (value : Value) {fault : Fault},
    shownFault? room value = some fault → fault = .tooDeep ∨ fault = .unprintable
  | 0, _, _, hfault => by
      rw [shownFault?] at hfault
      exact .inl (Option.some.inj hfault).symm
  | _ + 1, .int _, _, hfault => .inr (numberFault?_eq_some hfault)
  | room + 1, .list items, _, hfault => itemsFault?_eq_some room items hfault
  | room + 1, .table entries, _, hfault => entriesFault?_eq_some room entries hfault
  | _ + 1, .null, _, hfault | _ + 1, .bool _, _, hfault | _ + 1, .float _, _, hfault
  | _ + 1, .text _, _, hfault | _ + 1, .moment _, _, hfault
  | _ + 1, .choice _, _, hfault => by cases hfault

theorem itemsFault?_eq_some : ∀ (room : Nat) (items : List Value) {fault : Fault},
    itemsFault? room items = some fault → fault = .tooDeep ∨ fault = .unprintable
  | _, [], _, hfault => by cases hfault
  | room, value :: rest, _, hfault => by
      rw [itemsFault?] at hfault
      obtain hfirst | hrest := eq_some_of_orElse hfault
      · exact shownFault?_eq_some room value hfirst
      · exact itemsFault?_eq_some room rest hrest

theorem entriesFault?_eq_some : ∀ (room : Nat) (entries : List (Value × Value)) {fault : Fault},
    entriesFault? room entries = some fault → fault = .tooDeep ∨ fault = .unprintable
  | _, [], _, hfault => by cases hfault
  | room, (key, value) :: rest, _, hfault => by
      rw [entriesFault?] at hfault
      obtain hkey | hfault := eq_some_of_orElse hfault
      · exact shownFault?_eq_some room key hkey
      · obtain hvalue | hrest := eq_some_of_orElse hfault
        · exact shownFault?_eq_some room value hvalue
        · exact entriesFault?_eq_some room rest hrest

end

end Value

variable [Platform]

/-! ### Settings -/

namespace ConfigError

/-- The value that the message shows, if there is one, can be put into words. -/
def Worded (cause : ConfigError) : Prop :=
  ∀ value, cause.value? = some value → value.Showable Platform.showingRoom

theorem valueFault?_eq_none_iff (cause : ConfigError) :
    cause.value?.bind (Value.shownFault? Platform.showingRoom) = none ↔ cause.Worded := by
  simp only [Option.bind_eq_none_iff, Value.shownFault?_eq_none_iff, Worded]

theorem raised_of_worded {cause : ConfigError} (hworded : cause.Worded) :
    cause.raised = .reported cause := by
  rw [raised, cause.valueFault?_eq_none_iff.mpr hworded]
  rfl

theorem raised_eq_abrupt_iff {cause : ConfigError} {fault : Fault} :
    cause.raised = .abrupt fault ↔
      ∃ value, cause.value? = some value ∧ value.shownFault? Platform.showingRoom = some fault := by
  rw [← Option.bind_eq_some_iff, raised]
  cases cause.value?.bind (Value.shownFault? Platform.showingRoom) <;> simp [Failure.worded]

theorem raised_of_not_worded {cause : ConfigError} (hlost : ¬cause.Worded) :
    ∃ fault, cause.raised = .abrupt fault ∧ (fault = .tooDeep ∨ fault = .unprintable) := by
  rw [← valueFault?_eq_none_iff, ← ne_eq, Option.ne_none_iff_exists'] at hlost
  obtain ⟨fault, hfault⟩ := hlost
  obtain ⟨value, hvalue, hshown⟩ := Option.bind_eq_some_iff.mp hfault
  exact ⟨fault, raised_eq_abrupt_iff.mpr ⟨value, hvalue, hshown⟩,
    Value.shownFault?_eq_some _ value hshown⟩

end ConfigError

/-! ### Labels -/

theorem LabelError.raised_of_fits {cause : LabelError} (hstart : FitsDigits cause.start)
    (hstop : FitsDigits cause.stop) : cause.raised = .reported cause := by
  rw [raised, (numberFault?_eq_none_iff _).mpr hstart, (numberFault?_eq_none_iff _).mpr hstop]
  rfl

theorem LabelError.raised_of_not_fits {cause : LabelError}
    (hlost : ¬(FitsDigits cause.start ∧ FitsDigits cause.stop)) :
    cause.raised = .abrupt .unprintable := by
  rw [← numberFault?_eq_none_iff, ← numberFault?_eq_none_iff, ← orElse_eq_none_iff, ← ne_eq,
    Option.ne_none_iff_exists'] at hlost
  obtain ⟨fault, hfault⟩ := hlost
  have hunprintable : fault = .unprintable := by
    obtain hstart | hstop := eq_some_of_orElse hfault
    · exact numberFault?_eq_some hstart
    · exact numberFault?_eq_some hstop
  rw [raised, hfault, hunprintable]
  rfl

end Diagnostics
