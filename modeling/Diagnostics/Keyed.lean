/-!
# Keyed lists

Entries in the order in which their keys were first put, each key once as long as the list is built
with `put`. Putting a key again replaces its value in place.
-/

namespace Diagnostics

abbrev Keyed (α : Type u) := List (String × α)

namespace Keyed

variable {α : Type u}

def find? : Keyed α → String → Option α
  | [], _ => none
  | (k, v) :: rest, key => if k = key then some v else find? rest key

def put : Keyed α → String → α → Keyed α
  | [], key, value => [(key, value)]
  | (k, v) :: rest, key, value =>
      if k = key then (k, value) :: rest else (k, v) :: put rest key value

def keys (entries : Keyed α) : List String :=
  entries.map Prod.fst

def contains (entries : Keyed α) (key : String) : Bool :=
  (find? entries key).isSome

/-- Puts the entries of `updates` one after the other. -/
def putAll (entries updates : Keyed α) : Keyed α :=
  updates.foldl (fun acc entry => put acc entry.1 entry.2) entries

def ofList (entries : List (String × α)) : Keyed α :=
  putAll [] entries

@[simp]
theorem find?_put_self (entries : Keyed α) (key : String) (value : α) :
    find? (put entries key value) key = some value := by
  induction entries with
  | nil => simp [put, find?]
  | cons entry rest ih =>
      by_cases h : entry.1 = key <;> simp [put, find?, h, ih]

theorem find?_put_of_ne (entries : Keyed α) {key other : String} (value : α)
    (hne : other ≠ key) : find? (put entries key value) other = find? entries other := by
  induction entries with
  | nil => simp [put, find?, hne.symm]
  | cons entry rest ih =>
      by_cases h : entry.1 = key
      · simp [put, find?, h, hne.symm]
      · simp only [put, h, if_false, find?]
        rw [ih]

end Keyed

end Diagnostics
