/-!
# Keyed lists

Associations from names to values that keep the order in which the names first arrived.
Writing to a name that is present changes its value in place; a new name goes to the end.
-/

namespace SignOut

/-- Values under names, in order of arrival. -/
abbrev Keyed (α : Type) := List (String × α)

namespace Keyed

variable {α : Type}

/-- The value under a name. -/
def get? (key : String) : Keyed α → Option α
  | [] => none
  | (k, v) :: rest => if k = key then some v else get? key rest

/-- Write a value under a name. -/
def put (key : String) (value : α) : Keyed α → Keyed α
  | [] => [(key, value)]
  | (k, v) :: rest => if k = key then (k, value) :: rest else (k, v) :: put key value rest

/-- Remove a name. -/
def erase (key : String) : Keyed α → Keyed α
  | [] => []
  | (k, v) :: rest => if k = key then erase key rest else (k, v) :: erase key rest

/-- Write all entries of a list in order; the last value of a name stays. -/
def ofEntries (entries : List (String × α)) : Keyed α :=
  entries.foldl (fun table entry => put entry.1 entry.2 table) []

@[simp] theorem get?_put_self (key : String) (value : α) (table : Keyed α) :
    get? key (put key value table) = some value := by
  induction table with
  | nil => simp [put, get?]
  | cons entry rest ih =>
      obtain ⟨k, v⟩ := entry
      by_cases hk : k = key
      · simp [put, get?, hk]
      · simp [put, get?, hk, ih]

theorem get?_put_of_ne {key other : String} (hne : other ≠ key) (value : α) (table : Keyed α) :
    get? other (put key value table) = get? other table := by
  induction table with
  | nil => simp [put, get?, Ne.symm hne]
  | cons entry rest ih =>
      obtain ⟨k, v⟩ := entry
      by_cases hk : k = key
      · subst hk
        simp [put, get?, Ne.symm hne]
      · simp [put, get?, hk, ih]

@[simp] theorem get?_erase_self (key : String) (table : Keyed α) :
    get? key (erase key table) = none := by
  induction table with
  | nil => rfl
  | cons entry rest ih =>
      obtain ⟨k, v⟩ := entry
      by_cases hk : k = key
      · simp [erase, hk, ih]
      · simp [erase, get?, hk, ih]

/-- Writing to a name that is present keeps the names; a new one goes to the end. -/
theorem names_put (key : String) (value : α) (table : Keyed α) :
    (put key value table).map Prod.fst =
      if key ∈ table.map Prod.fst then table.map Prod.fst else table.map Prod.fst ++ [key] := by
  induction table with
  | nil => rfl
  | cons entry rest ih =>
      obtain ⟨k, v⟩ := entry
      by_cases hk : k = key
      · simp [put, hk]
      · simp only [put, if_neg hk, List.map_cons, ih, List.mem_cons, Ne.symm hk, false_or]
        split <;> rfl

theorem nodup_names_put {table : Keyed α} (h : (table.map Prod.fst).Nodup) (key : String)
    (value : α) : ((put key value table).map Prod.fst).Nodup := by
  rw [names_put]
  split
  · exact h
  · rename_i hnew
    refine List.nodup_append.mpr ⟨h, List.pairwise_singleton _ _, ?_⟩
    rintro name hmem other hother rfl
    rw [List.mem_singleton.mp hother] at hmem
    exact hnew hmem

/-- No name stands twice among written entries. -/
theorem nodup_names_ofEntries (entries : List (String × α)) :
    ((ofEntries entries).map Prod.fst).Nodup := by
  have hfold : ∀ table : Keyed α, (table.map Prod.fst).Nodup →
      ((entries.foldl (fun table entry => put entry.1 entry.2 table) table).map Prod.fst).Nodup := by
    induction entries with
    | nil => exact fun table h => h
    | cons entry rest ih => exact fun table h => ih _ (nodup_names_put h entry.1 entry.2)
  exact hfold [] List.nodup_nil

/-- A written name has the value of its last entry. -/
theorem get?_ofEntries (key : String) (entries : List (String × α)) :
    get? key (ofEntries entries) =
      ((entries.filter (·.1 = key)).getLast?).map Prod.snd := by
  have hfold : ∀ table : Keyed α,
      get? key (entries.foldl (fun table entry => put entry.1 entry.2 table) table) =
        (((entries.filter (·.1 = key)).getLast?).map Prod.snd).or (get? key table) := by
    induction entries with
    | nil => exact fun table => rfl
    | cons entry rest ih =>
        intro table
        obtain ⟨k, v⟩ := entry
        rw [List.foldl_cons, ih]
        by_cases hk : k = key
        · subst hk
          rw [get?_put_self, List.filter_cons_of_pos (by simp), List.getLast?_cons]
          cases (rest.filter (·.1 = k)).getLast? <;> rfl
        · rw [get?_put_of_ne (Ne.symm hk), List.filter_cons_of_neg (by simpa using hk)]
  rw [ofEntries, hfold, get?, Option.or_none]

end Keyed

end SignOut
