import Mathlib.Data.List.Forall2

/-!
# Results of several steps

What a step followed by another yields, said of both steps.
-/

namespace Diagnostics

variable {ε δ α β : Type}

theorem bind_eq_ok_iff {value : Except ε α} {next : α → Except ε β} {result : β} :
    value >>= next = .ok result ↔ ∃ a, value = .ok a ∧ next a = .ok result := by
  cases value with
  | error cause => simp [Bind.bind, Except.bind]
  | ok a => simp [Bind.bind, Except.bind]

theorem bind_of_eq_ok {value : Except ε α} {a : α} {next : α → Except ε β}
    (hvalue : value = .ok a) : value >>= next = next a := by
  rw [hvalue]
  rfl

theorem bind_eq_error_iff {value : Except ε α} {next : α → Except ε β} {cause : ε} :
    value >>= next = .error cause ↔
      value = .error cause ∨ ∃ a, value = .ok a ∧ next a = .error cause := by
  cases value with
  | error other => simp [Bind.bind, Except.bind]
  | ok a => simp [Bind.bind, Except.bind]

theorem mapError_eq_ok_iff {value : Except ε α} {change : ε → δ} {a : α} :
    value.mapError change = .ok a ↔ value = .ok a := by
  cases value with
  | error other => exact iff_of_false nofun nofun
  | ok b =>
      change Except.ok b = Except.ok a ↔ _
      rw [Except.ok.injEq, Except.ok.injEq]

theorem mapError_eq_error_iff {value : Except ε α} {change : ε → δ} {cause : δ} :
    value.mapError change = .error cause ↔
      ∃ other, value = .error other ∧ change other = cause := by
  cases value with
  | error other =>
      change Except.error (change other) = .error cause ↔ _
      simp
  | ok b => exact iff_of_false nofun fun ⟨_, hok, _⟩ => nomatch hok

theorem map_eq_ok_iff {value : Except ε α} {change : α → β} {b : β} :
    value.map change = .ok b ↔ ∃ a, value = .ok a ∧ change a = b := by
  cases value <;> simp [Except.map]

theorem map_eq_error_iff {value : Except ε α} {change : α → β} {cause : ε} :
    value.map change = .error cause ↔ value = .error cause := by
  cases value <;> simp [Except.map]

theorem map_bind_eq {γ : Type} (value : Except ε α) (next : α → Except ε β) (change : β → γ) :
    (value >>= next).map change = value >>= fun a => (next a).map change := by
  cases value <;> rfl

theorem bind_map_eq {γ : Type} (value : Except ε α) (change : α → β) (next : β → Except ε γ) :
    value.map change >>= next = value >>= fun a => next (change a) := by
  cases value <;> rfl

/-! ### Ends of steps -/

/-- What comes out has the one property, or what went wrong has the other. -/
def Ends (p : α → Prop) (q : ε → Prop) : Except ε α → Prop
  | .ok a => p a
  | .error cause => q cause

namespace Ends

variable {p : α → Prop} {q : ε → Prop} {value : Except ε α}

theorem bind (hvalue : Ends p q value) {r : β → Prop} {next : α → Except ε β}
    (hnext : ∀ a, p a → Ends r q (next a)) : Ends r q (value >>= next) := by
  cases value with
  | ok a => exact hnext a hvalue
  | error cause => exact hvalue

theorem map (hvalue : Ends p q value) {r : β → Prop} {change : α → β}
    (hchange : ∀ a, p a → r (change a)) : Ends r q (value.map change) := by
  cases value with
  | ok a => exact hchange a hvalue
  | error cause => exact hvalue

theorem mapError (hvalue : Ends p q value) {r : δ → Prop} {change : ε → δ}
    (hchange : ∀ cause, q cause → r (change cause)) : Ends p r (value.mapError change) := by
  cases value with
  | ok a => exact hvalue
  | error cause => exact hchange cause hvalue

/-- A list that comes out item by item. -/
theorem cons (hvalue : Ends p q value) {rest : α → Except ε (List α)}
    (hrest : ∀ a, Ends (fun others => ∀ b ∈ others, p b) q (rest a)) :
    Ends (fun results => ∀ b ∈ results, p b) q
      (value >>= fun a => rest a >>= fun others => pure (a :: others)) := by
  apply hvalue.bind
  intro a ha
  apply (hrest a).bind
  intro others hothers
  exact List.forall_mem_cons.mpr ⟨ha, hothers⟩

end Ends

/-! ### Numbered items -/

/-- A list is read item by item, each by its number. -/
structure ReadsEach (read : Nat → β → Except ε α)
    (readAll : Nat → List β → Except ε (List α)) : Prop where
  nil : ∀ n, readAll n [] = .ok []
  cons : ∀ n b rest, readAll n (b :: rest) =
    read n b >>= fun a => readAll (n + 1) rest >>= fun others => .ok (a :: others)

namespace ReadsEach

variable {read : Nat → β → Except ε α} {readAll : Nat → List β → Except ε (List α)}
  (heach : ReadsEach read readAll)
include heach

/-- Reading fails at the first item that cannot be read. -/
theorem eq_error_iff {n : Nat} {items : List β} {cause : ε} :
    readAll n items = .error cause ↔
      ∃ front bad back results, items = front ++ bad :: back ∧
        readAll n front = .ok results ∧ read (n + front.length) bad = .error cause := by
  induction items generalizing n with
  | nil => simp [heach.nil]
  | cons b rest ih =>
      rw [heach.cons, bind_eq_error_iff]
      constructor
      · rintro (hfirst | ⟨a, hfirst, hrest⟩)
        · exact ⟨[], b, rest, [], rfl, heach.nil n, hfirst⟩
        · obtain hrest | ⟨others, -, hpure⟩ := bind_eq_error_iff.mp hrest
          · obtain ⟨front, bad, back, results, rfl, hfront, hbad⟩ := ih.mp hrest
            refine ⟨b :: front, bad, back, a :: results, rfl, ?_, ?_⟩
            · rw [heach.cons, bind_of_eq_ok hfirst, bind_of_eq_ok hfront]
            · rw [List.length_cons, Nat.add_comm front.length, ← Nat.add_assoc]
              exact hbad
          · cases hpure
      · rintro ⟨front, bad, back, results, hitems, hfront, hbad⟩
        cases front with
        | nil =>
            obtain ⟨rfl, rfl⟩ := List.cons.inj hitems
            exact .inl hbad
        | cons c front =>
            obtain ⟨rfl, rfl⟩ := List.cons.inj hitems
            simp only [heach.cons, bind_eq_ok_iff] at hfront
            obtain ⟨a, hfirst, others, hothers, -⟩ := hfront
            refine .inr ⟨a, hfirst, bind_eq_error_iff.mpr (.inl (ih.mpr ?_))⟩
            refine ⟨front, bad, back, others, rfl, hothers, ?_⟩
            rw [List.length_cons, Nat.add_comm front.length, ← Nat.add_assoc] at hbad
            exact hbad

/-- The list is read if each of its items can be. -/
theorem exists_eq_ok_iff {p : β → Prop} (hread : ∀ n b, (∃ a, read n b = .ok a) ↔ p b) {n : Nat}
    {items : List β} : (∃ results, readAll n items = .ok results) ↔ ∀ b ∈ items, p b := by
  induction items generalizing n with
  | nil => simp [heach.nil]
  | cons b rest ih =>
      rw [List.forall_mem_cons, ← hread n, ← ih (n := n + 1)]
      simp only [heach.cons, bind_eq_ok_iff]
      constructor
      · rintro ⟨-, a, ha, others, hothers, -⟩
        exact ⟨⟨a, ha⟩, ⟨others, hothers⟩⟩
      · rintro ⟨⟨a, ha⟩, ⟨others, hothers⟩⟩
        exact ⟨_, a, ha, others, hothers, rfl⟩

/-- What holds of every item and of what it is read as holds along the list. -/
theorem forall₂ {r : β → α → Prop} (hread : ∀ {n b a}, read n b = .ok a → r b a) {n : Nat}
    {items : List β} {results : List α} (hall : readAll n items = .ok results) :
    List.Forall₂ r items results := by
  induction items generalizing n results with
  | nil =>
      rw [heach.nil] at hall
      obtain rfl := Except.ok.inj hall
      exact .nil
  | cons b rest ih =>
      simp only [heach.cons, bind_eq_ok_iff] at hall
      obtain ⟨a, ha, others, hothers, hresults⟩ := hall
      obtain rfl := Except.ok.inj hresults
      exact .cons (hread ha) (ih hothers)

theorem forall_mem {p : α → Prop} (hread : ∀ {n b a}, read n b = .ok a → p a) {n : Nat}
    {items : List β} {results : List α} (hall : readAll n items = .ok results) :
    ∀ a ∈ results, p a := by
  have hforall : List.Forall₂ (fun _ a => p a) items results := heach.forall₂ hread hall
  clear hall
  induction hforall with
  | nil => exact List.forall_mem_nil _
  | cons hfirst _ ih => exact List.forall_mem_cons.mpr ⟨hfirst, ih⟩

end ReadsEach

end Diagnostics
