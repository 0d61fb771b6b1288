import Diagnostics.Proofs.Except
import Diagnostics.Proofs.Keyed
import Diagnostics.Toml.Document

/-!
# Tables have each key once

In a document that is read no table has a key twice, however deep it lies. All tables are
built by putting entries under keys, and what is put is a value that was read before or a
table that was changed in the same way.
-/

namespace Diagnostics

namespace Toml

/-- No table in the value has a key twice. -/
inductive Value.Distinct : Value → Prop
  | plain {value} (hplain : value.isClosed = false) : Distinct value
  | array {items} (inside : ∀ item ∈ items, Distinct item) : Distinct (.array items)
  | table {entries} (keys : (Keyed.keys entries).Nodup)
      (inside : ∀ entry ∈ entries, Distinct entry.2) : Distinct (.table entries)

/-- Neither the table nor any table in it has a key twice. -/
def Table.Distinct (table : Table) : Prop :=
  Value.Distinct (.table table)

namespace Table.Distinct

variable {table : Table}

theorem empty : Table.Distinct [] :=
  .table List.nodup_nil (List.forall_mem_nil _)

theorem nodup_keys (hdistinct : Table.Distinct table) : (Keyed.keys table).Nodup := by
  cases hdistinct with
  | plain hplain => cases hplain
  | table keys inside => exact keys

theorem inside (hdistinct : Table.Distinct table) : ∀ entry ∈ table, entry.2.Distinct := by
  cases hdistinct with
  | plain hplain => cases hplain
  | table keys inside => exact inside

theorem find? (hdistinct : Table.Distinct table) {key : String} {value : Value}
    (hfind : Keyed.find? table key = some value) : value.Distinct :=
  hdistinct.inside _ (Keyed.mem_of_find? hfind)

theorem put (hdistinct : Table.Distinct table) {key : String} {value : Value}
    (hvalue : value.Distinct) : Table.Distinct (Keyed.put table key value) := by
  refine .table (Keyed.nodup_keys_put hdistinct.nodup_keys) fun entry hentry => ?_
  obtain hold | hnew := Keyed.mem_put hentry
  · exact hdistinct.inside entry hold
  · rw [hnew]
    exact hvalue

end Table.Distinct

theorem Value.Distinct.items {items : List Value} (hdistinct : Value.Distinct (.array items)) :
    ∀ item ∈ items, item.Distinct := by
  cases hdistinct with
  | plain hplain => cases hplain
  | array inside => exact inside

/-! ### Building tables -/

/-- The change of one table is the only step that is not the same for all changes. -/
theorem distinct_of_modifyAt {intoArrays : Bool} {change : Table → Option Table}
    (hchange : ∀ table changed, table.Distinct → change table = some changed → changed.Distinct)
    {path : Path} {table changed : Table} (hdistinct : table.Distinct)
    (hmodify : modifyAt intoArrays change path table = some changed) : changed.Distinct := by
  induction path generalizing table changed with
  | nil => exact hchange table changed hdistinct hmodify
  | cons key path ih =>
      rw [modifyAt] at hmodify
      split at hmodify
      case h_1 =>
        obtain ⟨inner, hinner, hput⟩ := Option.bind_eq_some_iff.mp hmodify
        obtain rfl := Option.some.inj hput
        exact hdistinct.put (ih .empty hinner)
      case h_2 inner hfind =>
        obtain ⟨inner, hinner, hput⟩ := Option.bind_eq_some_iff.mp hmodify
        obtain rfl := Option.some.inj hput
        exact hdistinct.put (ih (hdistinct.find? hfind) hinner)
      case h_3 items hfind =>
        have hitems := (hdistinct.find? hfind).items
        split at hmodify
        case h_1 inner hlast =>
          obtain ⟨inner, hinner, hput⟩ := Option.bind_eq_some_iff.mp hmodify
          obtain rfl := Option.some.inj hput
          refine hdistinct.put (.array fun item hitem => ?_)
          obtain hfront | hback := List.mem_append.mp hitem
          · exact hitems item (List.dropLast_subset items hfront)
          · rw [List.mem_singleton.mp hback]
            exact ih (hitems _ (List.mem_of_getLast? hlast)) hinner
        case h_2 => cases hmodify
      case h_4 => cases hmodify

theorem distinct_of_openTable? {path : Path} {table opened : Table}
    (hdistinct : table.Distinct) (hopen : openTable? path table = some opened) :
    opened.Distinct := by
  refine distinct_of_modifyAt (fun table changed hdistinct hchange => ?_) hdistinct hopen
  obtain rfl := Option.some.inj hchange
  exact hdistinct

theorem distinct_of_appendTable? {parents : Path} {key : String} {table extended : Table}
    (hdistinct : table.Distinct) (happend : appendTable? parents key table = some extended) :
    extended.Distinct := by
  refine distinct_of_modifyAt (fun table changed hdistinct hchange => ?_) hdistinct happend
  split at hchange
  case h_1 =>
    obtain rfl := Option.some.inj hchange
    exact hdistinct.put (.array (List.forall_mem_singleton.mpr Table.Distinct.empty))
  case h_2 items hfind =>
    obtain rfl := Option.some.inj hchange
    refine hdistinct.put (.array (List.forall_mem_append.mpr ⟨?_, ?_⟩))
    · exact (hdistinct.find? hfind).items
    · exact List.forall_mem_singleton.mpr Table.Distinct.empty
  case h_3 => cases hchange

theorem distinct_of_insertAt? {intoArrays : Bool} {parents : Path} {key : String} {value : Value}
    {table extended : Table} (hdistinct : table.Distinct) (hvalue : value.Distinct)
    (hinsert : insertAt? intoArrays parents key value table = some extended) :
    extended.Distinct := by
  refine distinct_of_modifyAt (fun table changed hdistinct hchange => ?_) hdistinct hinsert
  split at hchange
  · cases hchange
  · obtain rfl := Option.some.inj hchange
    exact hdistinct.put hvalue

theorem distinct_of_openHeader? {draft next : Draft} {path : Path}
    (hdistinct : draft.table.Distinct) (hopen : draft.openHeader? path = some next) :
    next.table.Distinct := by
  simp only [Draft.openHeader?] at hopen
  split at hopen
  · cases hopen
  · obtain ⟨table, htable, hnext⟩ := Option.bind_eq_some_iff.mp hopen
    obtain rfl := Option.some.inj hnext
    exact distinct_of_openTable? hdistinct htable

theorem distinct_of_appendHeader? {draft next : Draft} {path : Path}
    (hdistinct : draft.table.Distinct) (happend : draft.appendHeader? path = some next) :
    next.table.Distinct := by
  simp only [Draft.appendHeader?] at happend
  split at happend
  · cases happend
  · obtain ⟨table, htable, hnext⟩ := Option.bind_eq_some_iff.mp happend
    obtain rfl := Option.some.inj hnext
    exact distinct_of_appendTable? hdistinct htable

theorem distinct_of_addEntry? {draft next : Draft} {path : Path} {value : Value}
    (hdistinct : draft.table.Distinct) (hvalue : value.Distinct)
    (hadd : draft.addEntry? path value = some next) : next.table.Distinct := by
  simp only [Draft.addEntry?] at hadd
  split at hadd
  · cases hadd
  · obtain ⟨table, htable, hnext⟩ := Option.bind_eq_some_iff.mp hadd
    obtain rfl := Option.some.inj hnext
    exact distinct_of_insertAt? hdistinct hvalue htable

/-! ### Reading values -/

theorem required_eq_ok_iff {result : Option α} {a : α} :
    required result = .ok a ↔ result = some a := by
  cases result <;> simp [required]

theorem orElse_eq_some_iff {first second : Option α} {a : α} :
    (first <|> second) = some a ↔ first = some a ∨ first = none ∧ second = some a := by
  rw [Option.orElse_eq_orElse, Option.orElse_eq_or, Option.or_eq_some_iff]

theorem isClosed_of_readBased? {cs after : List Char} {value : Value}
    (hread : readBased? cs = some (value, after)) : value.isClosed = false := by
  have hrun : ∀ {base rest}, ((readRun? (isDigitOf base) rest).bind fun run =>
      some (Value.int (valueInBase base run.1), run.2)) = some (value, after) →
      value.isClosed = false := by
    intro base rest hrun
    obtain ⟨run, -, hint⟩ := Option.bind_eq_some_iff.mp hrun
    obtain ⟨rfl, -⟩ := Prod.mk.inj (Option.some.inj hint)
    rfl
  cases cs with
  | nil => cases hread
  | cons c rest =>
      by_cases hex : c = 'x'
      · exact hrun (by simpa [readBased?, hex] using hread)
      by_cases hbinary : c = 'b'
      · exact hrun (by simpa [readBased?, hbinary] using hread)
      by_cases hoctal : c = 'o'
      · exact hrun (by simpa [readBased?, hoctal] using hread)
      simp [readBased?, hex, hbinary, hoctal] at hread

theorem isClosed_of_readDecimal? {cs after : List Char} {value : Value}
    (hread : readDecimal? cs = some (value, after)) : value.isClosed = false := by
  simp only [readDecimal?, Option.bind_eq_bind, Option.bind_eq_some_iff] at hread
  obtain ⟨whole, -, hread⟩ := hread
  split at hread
  · obtain ⟨rfl, -⟩ := Prod.mk.inj (Option.some.inj hread)
    rfl
  · obtain ⟨number, -, hread⟩ := Option.bind_eq_some_iff.mp hread
    obtain ⟨rfl, -⟩ := Prod.mk.inj (Option.some.inj hread)
    rfl

theorem isClosed_of_readNumber? {cs after : List Char} {value : Value}
    (hread : readNumber? cs = some (value, after)) : value.isClosed = false := by
  unfold readNumber? at hread
  split at hread
  · obtain hbased | ⟨-, hdecimal⟩ := orElse_eq_some_iff.mp hread
    · exact isClosed_of_readBased? hbased
    · exact isClosed_of_readDecimal? hdecimal
  · exact isClosed_of_readDecimal? hread

theorem isClosed_of_readScalar? {cs after : List Char} {value : Value}
    (hread : readScalar? cs = some (value, after)) : value.isClosed = false := by
  rw [readScalar?] at hread
  split at hread
  case h_1 =>
    split at hread
    · obtain ⟨rfl, -⟩ := Prod.mk.inj (Option.some.inj hread)
      rfl
    · cases hread
  case h_2 =>
    split at hread
    case h_1 =>
      obtain ⟨rfl, -⟩ := Prod.mk.inj (Option.some.inj hread)
      rfl
    case h_2 =>
      obtain hnumber | ⟨-, hspecial⟩ := orElse_eq_some_iff.mp hread
      · exact isClosed_of_readNumber? hnumber
      · simp only [readSpecial?] at hspecial
        split at hspecial
        · obtain ⟨rfl, -⟩ := Prod.mk.inj (Option.some.inj hspecial)
          rfl
        · obtain ⟨rfl, -⟩ := Prod.mk.inj (Option.some.inj hspecial)
          rfl
        · cases hspecial

variable [Platform]

/-- Only the digits are checked of a scalar that is read. -/
theorem readScalar?_of_readScalar {cs after : List Char} {value : Value}
    (hread : readScalar cs = .ok (value, after)) : readScalar? cs = some (value, after) := by
  simp only [readScalar, bind_eq_ok_iff, required_eq_ok_iff] at hread
  obtain ⟨scalar, hscalar, -, -, hpure⟩ := hread
  rw [hscalar]
  exact congrArg some (Except.ok.inj hpure)

/-- The three readers of nested values yield no key twice with so much fuel. -/
structure ReadsDistinct (fuel : Nat) : Prop where
  value : ∀ {room cs value after},
    readValueFor fuel room cs = .ok (value, after) → value.Distinct
  items : ∀ {room cs items after},
    readItemsFor fuel room cs = .ok (items, after) → ∀ item ∈ items, item.Distinct
  entries : ∀ {room table marks cs extended after}, table.Distinct →
    readEntriesFor fuel room table marks cs = .ok (extended, after) → extended.Distinct

theorem distinct_of_readValueFor {fuel : Nat} (hfuel : ReadsDistinct fuel) {room : Nat}
    {cs after : List Char} {value : Value}
    (hread : readValueFor (fuel + 1) room cs = .ok (value, after)) : value.Distinct := by
  cases cs with
  | nil => cases hread
  | cons c rest =>
      rw [readValueFor] at hread
      split at hread
      · obtain ⟨text, -, hpure⟩ := bind_eq_ok_iff.mp hread
        obtain ⟨rfl, -⟩ := Prod.mk.inj (Except.ok.inj hpure)
        exact .plain rfl
      split at hread
      · simp only [bind_eq_ok_iff] at hread
        obtain ⟨inner, -, start, -, items, hitems, hpure⟩ := hread
        obtain ⟨rfl, -⟩ := Prod.mk.inj (Except.ok.inj hpure)
        exact .array (hfuel.items hitems)
      split at hread
      · obtain ⟨inner, -, hread⟩ := bind_eq_ok_iff.mp hread
        split at hread
        · obtain ⟨rfl, -⟩ := Prod.mk.inj (Except.ok.inj hread)
          exact Table.Distinct.empty
        · obtain ⟨entries, hentries, hpure⟩ := bind_eq_ok_iff.mp hread
          obtain ⟨rfl, -⟩ := Prod.mk.inj (Except.ok.inj hpure)
          exact hfuel.entries .empty hentries
      split at hread
      · obtain ⟨rfl, -⟩ := Prod.mk.inj (Except.ok.inj hread)
        exact .plain rfl
      · obtain ⟨rfl, -⟩ := Prod.mk.inj (Except.ok.inj hread)
        exact .plain rfl
      · exact .plain (isClosed_of_readScalar? (readScalar?_of_readScalar hread))

theorem distinct_of_readItemsFor {fuel : Nat} (hfuel : ReadsDistinct fuel) {room : Nat}
    {cs after : List Char} {items : List Value}
    (hread : readItemsFor (fuel + 1) room cs = .ok (items, after)) :
    ∀ item ∈ items, item.Distinct := by
  unfold readItemsFor at hread
  split at hread
  case h_1 => cases hread
  case h_2 =>
    obtain ⟨rfl, -⟩ := Prod.mk.inj (Except.ok.inj hread)
    exact List.forall_mem_nil _
  case h_3 hsucc _ =>
    obtain rfl := Nat.succ.inj hsucc
    simp only [bind_eq_ok_iff] at hread
    obtain ⟨first, hfirst, separator, -, hread⟩ := hread
    split at hread
    · obtain ⟨rfl, -⟩ := Prod.mk.inj (Except.ok.inj hread)
      exact List.forall_mem_singleton.mpr (hfuel.value hfirst)
    · simp only [bind_eq_ok_iff] at hread
      obtain ⟨start, -, rest, hrest, hpure⟩ := hread
      obtain ⟨rfl, -⟩ := Prod.mk.inj (Except.ok.inj hpure)
      exact List.forall_mem_cons.mpr ⟨hfuel.value hfirst, hfuel.items hrest⟩
    · cases hread

theorem distinct_of_readEntriesFor {fuel : Nat} (hfuel : ReadsDistinct fuel) {room : Nat}
    {table extended : Table} {marks : Marks} {cs after : List Char} (hdistinct : table.Distinct)
    (hread : readEntriesFor (fuel + 1) room table marks cs = .ok (extended, after)) :
    extended.Distinct := by
  simp only [readEntriesFor, bind_eq_ok_iff] at hread
  obtain ⟨key, -, afterEquals, -, entry, hentry, hread⟩ := hread
  split at hread
  · cases hread
  · obtain ⟨inserted, hinsert, hread⟩ := bind_eq_ok_iff.mp hread
    have hinserted := distinct_of_insertAt? hdistinct (hfuel.value hentry)
      (required_eq_ok_iff.mp hinsert)
    split at hread
    · obtain ⟨rfl, -⟩ := Prod.mk.inj (Except.ok.inj hread)
      exact hinserted
    · exact hfuel.entries hinserted hread
    · cases hread

theorem readsDistinct (fuel : Nat) : ReadsDistinct fuel := by
  induction fuel with
  | zero =>
      exact
        { value := fun hread => by cases hread
          items := fun hread => by cases hread
          entries := fun _ hread => by cases hread }
  | succ fuel ih =>
      exact
        { value := distinct_of_readValueFor ih
          items := distinct_of_readItemsFor ih
          entries := distinct_of_readEntriesFor ih }

theorem distinct_of_readValue {cs after : List Char} {value : Value}
    (hread : readValue cs = .ok (value, after)) : value.Distinct :=
  (readsDistinct _).value hread

/-! ### Reading documents -/

theorem distinct_of_readStatement {draft next : Draft} {cs after : List Char}
    (hdistinct : draft.table.Distinct) (hread : readStatement draft cs = .ok (next, after)) :
    next.table.Distinct := by
  unfold readStatement at hread
  split at hread
  · simp only [bind_eq_ok_iff, required_eq_ok_iff] at hread
    obtain ⟨key, -, opened, happend, rest, -, hpure⟩ := hread
    obtain ⟨rfl, -⟩ := Prod.mk.inj (Except.ok.inj hpure)
    exact distinct_of_appendHeader? hdistinct happend
  · simp only [bind_eq_ok_iff, required_eq_ok_iff] at hread
    obtain ⟨key, -, opened, hopen, rest, -, hpure⟩ := hread
    obtain ⟨rfl, -⟩ := Prod.mk.inj (Except.ok.inj hpure)
    exact distinct_of_openHeader? hdistinct hopen
  · obtain ⟨rfl, -⟩ := Prod.mk.inj (Except.ok.inj hread)
    exact hdistinct
  · simp only [bind_eq_ok_iff, required_eq_ok_iff] at hread
    obtain ⟨key, -, afterEquals, -, entry, hentry, added, hadd, hpure⟩ := hread
    obtain ⟨rfl, -⟩ := Prod.mk.inj (Except.ok.inj hpure)
    exact distinct_of_addEntry? hdistinct (distinct_of_readValue hentry) hadd

theorem distinct_of_readStatementsFor {fuel : Nat} {draft : Draft} {cs : List Char}
    {document : Table} (hdistinct : draft.table.Distinct)
    (hread : readStatementsFor fuel draft cs = .ok document) : document.Distinct := by
  induction fuel generalizing draft cs with
  | zero => cases hread
  | succ fuel ih =>
      unfold readStatementsFor at hread
      split at hread
      · obtain rfl := Except.ok.inj hread
        exact hdistinct
      · exact ih hdistinct hread
      · simp only [bind_eq_ok_iff] at hread
        obtain ⟨step, hstep, rest, -, hread⟩ := hread
        have hnext := distinct_of_readStatement hdistinct hstep
        split at hread
        · obtain rfl := Except.ok.inj hread
          exact hnext
        · exact ih hnext hread
        · cases hread

theorem distinct_of_read {bytes : List UInt8} {document : Table}
    (hread : read bytes = .ok document) : document.Distinct := by
  unfold read at hread
  split at hread
  · cases hread
  · exact distinct_of_readStatementsFor .empty (mapError_eq_ok_iff.mp hread)

end Toml

end Diagnostics
