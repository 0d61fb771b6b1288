import Diagnostics.Source.Cache

/-!
# Looking up sources

A cache answers each id on its own: what is registered under one id neither shows nor
hides anything under another one.
-/

namespace Diagnostics

theorem Keyed.find?_filter_of_ne (entries : Keyed α) {key other : String} (hne : other ≠ key) :
    Keyed.find? (entries.filter fun entry => entry.1 ≠ key) other = Keyed.find? entries other := by
  induction entries with
  | nil => rfl
  | cons entry rest ih =>
      obtain ⟨first, value⟩ := entry
      by_cases hkey : first = key
      · have hother : first ≠ other := fun heq => hne (heq ▸ hkey)
        rw [List.filter_cons_of_neg (by simpa using hkey), ih, find?, if_neg hother]
      · rw [List.filter_cons_of_pos (by simpa using hkey), find?, find?, ih]

namespace Cache

variable (cache : Cache)

/-- The cache with nothing registered under the id. -/
def remove (id : String) : Cache :=
  ⟨cache.entries.filter fun entry => entry.1 ≠ id⟩

theorem fetch_eq_error_iff (id : String) (cause : MissingSource) :
    cache.fetch id = .error cause ↔ cause.id = id ∧ cache.contains id = false := by
  obtain ⟨missing⟩ := cause
  rw [fetch, contains, Keyed.contains]
  cases Keyed.find? cache.entries id with
  | none => simp [eq_comm]
  | some source => simp

theorem fetch_add_of_ne {id other : String} (source : Source) (hne : other ≠ id) :
    (cache.add other source).fetch id = cache.fetch id := by
  rw [fetch, fetch, add, Keyed.find?_put_of_ne _ _ hne.symm]

theorem fetch_remove_of_ne {id other : String} (hne : other ≠ id) :
    (cache.remove other).fetch id = cache.fetch id := by
  rw [fetch, fetch, remove, Keyed.find?_filter_of_ne _ hne.symm]

theorem fetch_ofList_singleton (id : String) (source : Source) :
    (Cache.ofList [(id, source)]).fetch id = .ok source := by
  simp [ofList, Keyed.ofList, Keyed.putAll, Keyed.put, fetch, Keyed.find?]

end Cache

end Diagnostics
