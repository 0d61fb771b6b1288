import Diagnostics.Keyed

/-!
# Keys of keyed lists

Putting an entry adds no other key than its own, and keys that were distinct stay so. A list
that is updated has each update in the place of the entry that it replaces, and those that
replace none at its end. With distinct keys, what is found does not depend on the order.
-/

namespace Diagnostics

namespace Keyed

variable {α : Type u} {entries : Keyed α} {key : String} {value : α}

theorem mem_of_find? (hfind : find? entries key = some value) : (key, value) ∈ entries := by
  induction entries with
  | nil => cases hfind
  | cons entry rest ih =>
      obtain ⟨first, other⟩ := entry
      by_cases hkey : first = key
      · obtain rfl : other = value := by simpa [find?, hkey] using hfind
        rw [hkey]
        exact List.mem_cons_self
      · exact List.mem_cons_of_mem _ (ih (by simpa [find?, hkey] using hfind))

theorem mem_keys_of_find? (hfind : find? entries key = some value) : key ∈ keys entries :=
  List.mem_map.mpr ⟨_, mem_of_find? hfind, rfl⟩

theorem find?_eq_none_iff : find? entries key = none ↔ key ∉ keys entries := by
  induction entries with
  | nil => simp [find?, keys]
  | cons entry rest ih =>
      by_cases hkey : entry.1 = key
      · simp [find?, keys, hkey]
      · rw [find?, if_neg hkey, ih, keys, keys, List.map_cons, List.mem_cons,
          or_iff_right (Ne.symm hkey)]

theorem contains_iff : contains entries key ↔ key ∈ keys entries := by
  rw [contains, Option.isSome_iff_ne_none, ne_eq, find?_eq_none_iff, Classical.not_not]

theorem find?_append (front back : Keyed α) (key : String) :
    find? (front ++ back) key = (find? front key).or (find? back key) := by
  induction front with
  | nil => rfl
  | cons entry rest ih =>
      by_cases hkey : entry.1 = key
      · simp [find?, hkey]
      · simp [find?, hkey, ih]

theorem mem_put {entry : String × α} (hmem : entry ∈ put entries key value) :
    entry ∈ entries ∨ entry.2 = value := by
  induction entries with
  | nil => exact .inr (by rw [List.mem_singleton.mp hmem])
  | cons first rest ih =>
      rw [put] at hmem
      split at hmem
      · obtain rfl | hrest := List.mem_cons.mp hmem
        · exact .inr rfl
        · exact .inl (List.mem_cons_of_mem _ hrest)
      · obtain rfl | hrest := List.mem_cons.mp hmem
        · exact .inl List.mem_cons_self
        · exact (ih hrest).imp_left (List.mem_cons_of_mem _)

theorem mem_keys_put {other : String} :
    other ∈ keys (put entries key value) ↔ other = key ∨ other ∈ keys entries := by
  induction entries with
  | nil => simp [put, keys]
  | cons entry rest ih =>
      by_cases hkey : entry.1 = key
      · simp [put, keys, hkey]
      · simp only [keys] at ih
        simp only [put, hkey, if_false, keys, List.map_cons, List.mem_cons, ih]
        exact or_left_comm

theorem nodup_keys_put (hnodup : (keys entries).Nodup) : (keys (put entries key value)).Nodup := by
  induction entries with
  | nil => exact List.pairwise_singleton _ key
  | cons entry rest ih =>
      obtain ⟨hnew, hrest⟩ := List.nodup_cons.mp hnodup
      by_cases hkey : entry.1 = key
      · rw [put, if_pos hkey]
        exact hnodup
      · simp only [put, hkey, if_false]
        refine List.nodup_cons.mpr ⟨fun hmem => ?_, ih hrest⟩
        exact (mem_keys_put.mp hmem).elim hkey hnew

/-! ### Lists with distinct keys -/

theorem find?_eq_some_iff (hnodup : (keys entries).Nodup) :
    find? entries key = some value ↔ (key, value) ∈ entries := by
  refine ⟨mem_of_find?, fun hmem => ?_⟩
  induction entries with
  | nil => cases hmem
  | cons entry rest ih =>
      obtain ⟨hnew, hrest⟩ := List.nodup_cons.mp hnodup
      rw [find?]
      obtain rfl | hlater := List.mem_cons.mp hmem
      · exact if_pos rfl
      · have hne : entry.1 ≠ key := by
          rintro rfl
          exact hnew (List.mem_map.mpr ⟨_, hlater, rfl⟩)
        rw [if_neg hne, ih hrest hlater]

theorem find?_of_perm {other : Keyed α} (hperm : entries.Perm other)
    (hnodup : (keys entries).Nodup) (key : String) : find? entries key = find? other key := by
  have hother : (keys other).Nodup := (hperm.map Prod.fst).nodup_iff.mp hnodup
  apply Option.ext
  intro value
  rw [find?_eq_some_iff hnodup, find?_eq_some_iff hother, hperm.mem_iff]

theorem put_of_not_mem (hnew : key ∉ keys entries) :
    put entries key value = entries ++ [(key, value)] := by
  induction entries with
  | nil => rfl
  | cons entry rest ih =>
      obtain ⟨hne, hrest⟩ := not_or.mp (mt List.mem_cons.mpr hnew)
      rw [put, if_neg (Ne.symm hne), ih hrest, List.cons_append]

theorem put_of_mem (hnodup : (keys entries).Nodup) (hmem : key ∈ keys entries) :
    put entries key value =
      entries.map fun entry => (entry.1, if entry.1 = key then value else entry.2) := by
  induction entries with
  | nil => cases hmem
  | cons entry rest ih =>
      obtain ⟨hnew, hrest⟩ := List.nodup_cons.mp hnodup
      rw [put, List.map_cons]
      by_cases hkey : entry.1 = key
      · have hothers : rest.map (fun other => (other.1, if other.1 = key then value else other.2)) =
            rest.map id := by
          refine List.map_congr_left fun other hother => ?_
          have hne : other.1 ≠ key := fun heq =>
            hnew (hkey ▸ heq ▸ List.mem_map_of_mem hother)
          rw [if_neg hne, id]
        rw [if_pos hkey, if_pos hkey, hothers, List.map_id]
      · have hlater : key ∈ keys rest :=
          (List.mem_cons.mp hmem).resolve_left (Ne.symm hkey)
        rw [if_neg hkey, if_neg hkey, ih hrest hlater]

/-! ### Updated lists -/

/-- Each update in the place of the entry that it replaces, the others at the end. -/
def updatedWith (entries updates : Keyed α) : Keyed α :=
  entries.map (fun entry => (entry.1, (find? updates entry.1).getD entry.2)) ++
    updates.filter fun entry => entry.1 ∉ keys entries

theorem updatedWith_nil_left (updates : Keyed α) : updatedWith [] updates = updates := by
  simp [updatedWith, keys]

theorem keys_append (front back : Keyed α) : keys (front ++ back) = keys front ++ keys back :=
  List.map_append

theorem keys_map_snd (entries : Keyed α) (change : String × α → α) :
    keys (entries.map fun entry => (entry.1, change entry)) = keys entries := by
  rw [keys, keys, List.map_map]
  rfl

theorem updatedWith_put {rest : Keyed α} (hentries : (keys entries).Nodup)
    (hnew : key ∉ keys rest) :
    updatedWith (put entries key value) rest = updatedWith entries ((key, value) :: rest) := by
  have hnone : find? rest key = none := find?_eq_none_iff.mpr hnew
  by_cases hmem : key ∈ keys entries
  · rw [put_of_mem hentries hmem, updatedWith, updatedWith, keys_map_snd, List.map_map,
      List.filter_cons_of_neg (by simpa using hmem)]
    congr 1
    refine List.map_congr_left fun entry _ => ?_
    by_cases hkey : entry.1 = key
    · simp [find?, hkey, hnone]
    · simp [find?, hkey, Ne.symm hkey]
  · have hothers : entries.map (fun entry => (entry.1, (find? rest entry.1).getD entry.2)) =
        entries.map fun entry =>
          (entry.1, (find? ((key, value) :: rest) entry.1).getD entry.2) := by
      refine List.map_congr_left fun entry hentry => ?_
      have hne : key ≠ entry.1 := by
        rintro rfl
        exact hmem (List.mem_map_of_mem hentry)
      rw [find?, if_neg hne]
    have hlater : rest.filter (fun entry => entry.1 ∉ keys (entries ++ [(key, value)])) =
        rest.filter fun entry => entry.1 ∉ keys entries := by
      refine List.filter_congr fun entry hentry => ?_
      have hne : entry.1 ≠ key := by
        rintro rfl
        exact hnew (List.mem_map_of_mem hentry)
      have hmember : entry.1 ∈ keys (entries ++ [(key, value)]) ↔ entry.1 ∈ keys entries := by
        rw [keys_append, List.mem_append, or_iff_left]
        simpa [keys] using hne
      rw [decide_eq_decide, hmember]
    rw [put_of_not_mem hmem, updatedWith, updatedWith, hlater, List.map_append, hothers,
      List.filter_cons_of_pos (by simpa using hmem), List.append_assoc]
    simp [hnone]

/-- Putting updates one after the other yields the updated list. -/
theorem putAll_eq_updatedWith {updates : Keyed α} (hentries : (keys entries).Nodup)
    (hupdates : (keys updates).Nodup) : putAll entries updates = updatedWith entries updates := by
  induction updates generalizing entries with
  | nil => simp [putAll, updatedWith, find?]
  | cons update rest ih =>
      obtain ⟨hnew, hrest⟩ := List.nodup_cons.mp hupdates
      calc
        putAll entries (update :: rest) = putAll (put entries update.1 update.2) rest := rfl
        _ = updatedWith (put entries update.1 update.2) rest := ih (nodup_keys_put hentries) hrest
        _ = updatedWith entries (update :: rest) := updatedWith_put hentries hnew

theorem putAll_nil {updates : Keyed α} (hupdates : (keys updates).Nodup) :
    putAll [] updates = updates := by
  have hnone : (keys ([] : Keyed α)).Nodup := List.nodup_nil
  rw [putAll_eq_updatedWith hnone hupdates]
  simp [updatedWith, keys]

theorem nodup_keys_putAll (hentries : (keys entries).Nodup) (updates : Keyed α) :
    (keys (putAll entries updates)).Nodup := by
  induction updates generalizing entries with
  | nil => exact hentries
  | cons update rest ih => exact ih (nodup_keys_put hentries)

theorem nodup_keys_updatedWith {updates : Keyed α} (hentries : (keys entries).Nodup)
    (hupdates : (keys updates).Nodup) : (keys (updatedWith entries updates)).Nodup := by
  rw [← putAll_eq_updatedWith hentries hupdates]
  exact nodup_keys_putAll hentries updates

theorem mem_keys_putAll {updates : Keyed α} {key : String} :
    key ∈ keys (putAll entries updates) ↔ key ∈ keys entries ∨ key ∈ keys updates := by
  induction updates generalizing entries with
  | nil => simp [putAll, keys]
  | cons update rest ih =>
      have hstep : key ∈ keys (putAll entries (update :: rest)) ↔
          key ∈ keys (put entries update.1 update.2) ∨ key ∈ keys rest := ih
      rw [hstep, mem_keys_put, @or_comm (key = update.1), or_assoc, keys, keys, keys,
        List.map_cons, List.mem_cons]

/-- An update decides about its key, and the list about all others. -/
theorem find?_putAll {updates : Keyed α} (hupdates : (keys updates).Nodup) (entries : Keyed α)
    (key : String) :
    find? (putAll entries updates) key = (find? updates key).or (find? entries key) := by
  induction updates generalizing entries with
  | nil => rfl
  | cons update rest ih =>
      obtain ⟨hnew, hrest⟩ := List.nodup_cons.mp hupdates
      have hstep : find? (putAll entries (update :: rest)) key =
          (find? rest key).or (find? (put entries update.1 update.2) key) :=
        ih hrest (put entries update.1 update.2)
      rw [hstep, find?]
      by_cases hkey : update.1 = key
      · have hnone : find? rest key = none := find?_eq_none_iff.mpr (hkey ▸ hnew)
        rw [if_pos hkey, hnone, hkey, find?_put_self]
        rfl
      · rw [if_neg hkey, find?_put_of_ne entries update.2 (Ne.symm hkey)]

theorem find?_updatedWith {updates : Keyed α} (hentries : (keys entries).Nodup)
    (hupdates : (keys updates).Nodup) (key : String) :
    find? (updatedWith entries updates) key = (find? updates key).or (find? entries key) := by
  rw [← putAll_eq_updatedWith hentries hupdates, find?_putAll hupdates]

theorem mem_keys_updatedWith {updates : Keyed α} (hentries : (keys entries).Nodup)
    (hupdates : (keys updates).Nodup) {key : String} :
    key ∈ keys (updatedWith entries updates) ↔ key ∈ keys entries ∨ key ∈ keys updates := by
  rw [← putAll_eq_updatedWith hentries hupdates, mem_keys_putAll]

/-- Updates in another order, of a list in another order, make the same list in another order. -/
theorem updatedWith_perm {other updates others : Keyed α} (hentries : entries.Perm other)
    (hupdates : updates.Perm others) (hdistinct : (keys updates).Nodup) :
    (updatedWith entries updates).Perm (updatedWith other others) := by
  have hkeys : (keys entries).Perm (keys other) := hentries.map Prod.fst
  have hfound : entries.map (fun entry => (entry.1, (find? updates entry.1).getD entry.2)) =
      entries.map fun entry => (entry.1, (find? others entry.1).getD entry.2) := by
    simp only [find?_of_perm hupdates hdistinct]
  have hnew : (updates.filter fun entry => entry.1 ∉ keys entries) =
      updates.filter fun entry => entry.1 ∉ keys other := by
    simp only [hkeys.mem_iff]
  rw [updatedWith, updatedWith, hfound, hnew]
  exact (hentries.map _).append (hupdates.filter _)

end Keyed

end Diagnostics
