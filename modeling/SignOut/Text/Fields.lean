/-!
# Fields of a text

Cutting a text at a separator character.  A text always has at least one field, and the
fields joined by the separator give the text back.
-/

namespace SignOut.Text

/-- The pieces of a text between the occurrences of a separator. -/
def fields (sep : Char) : List Char → List (List Char)
  | [] => [[]]
  | c :: rest =>
      if c = sep then [] :: fields sep rest
      else
        match fields sep rest with
        | [] => [[c]]
        | field :: more => (c :: field) :: more

/-- The pieces of a text put together again with a separator between them. -/
def joinWith (sep : Char) : List (List Char) → List Char
  | [] => []
  | [field] => field
  | field :: more => field ++ sep :: joinWith sep more

/-- The part before the first separator, and the part after it if there is one. -/
def cut (sep : Char) : List Char → List Char × Option (List Char)
  | [] => ([], none)
  | c :: rest =>
      if c = sep then ([], some rest)
      else
        let (before, after) := cut sep rest
        (c :: before, after)

/-- The part after the last separator, if there is one. -/
def afterLast? (sep : Char) (cs : List Char) : Option (List Char) :=
  if sep ∈ cs then some (cs.reverse.takeWhile (· ≠ sep)).reverse else none

theorem fields_ne_nil (sep : Char) (cs : List Char) : fields sep cs ≠ [] := by
  cases cs with
  | nil => simp [fields]
  | cons c rest =>
      simp only [fields]
      split
      · simp
      · split <;> simp

/-- Joining the fields of a text gives the text back. -/
theorem joinWith_fields (sep : Char) (cs : List Char) : joinWith sep (fields sep cs) = cs := by
  induction cs with
  | nil => rfl
  | cons c rest ih =>
      have hne := fields_ne_nil sep rest
      simp only [fields]
      split
      · rename_i hc
        subst hc
        cases hf : fields c rest with
        | nil => exact absurd hf hne
        | cons field more => rw [hf] at ih; simp [joinWith, ih]
      · cases hf : fields sep rest with
        | nil => exact absurd hf hne
        | cons field more =>
            rw [hf] at ih
            cases more with
            | nil => simpa [joinWith] using ih
            | cons _ _ => simpa [joinWith] using ih

/-- No field holds the separator. -/
theorem not_mem_of_mem_fields {sep : Char} {cs field : List Char}
    (h : field ∈ fields sep cs) : sep ∉ field := by
  induction cs generalizing field with
  | nil => simp [fields] at h; subst h; simp
  | cons c rest ih =>
      simp only [fields] at h
      split at h
      · simp only [List.mem_cons] at h
        rcases h with rfl | h
        · simp
        · exact ih h
      · rename_i hc
        split at h
        · simp only [List.mem_singleton] at h
          subst h
          simpa using Ne.symm hc
        · rename_i first more heq
          simp only [List.mem_cons] at h
          rcases h with rfl | h
          · have hfirst : sep ∉ first := ih (by rw [heq]; simp)
            simp [hfirst, Ne.symm hc]
          · exact ih (by rw [heq]; simp [h])

/-- A text without the separator is a single field. -/
theorem fields_of_not_mem {sep : Char} {cs : List Char} (h : sep ∉ cs) :
    fields sep cs = [cs] := by
  induction cs with
  | nil => rfl
  | cons c rest ih =>
      have hc : c ≠ sep := (List.ne_of_not_mem_cons h).symm
      have hrest : sep ∉ rest := List.not_mem_of_not_mem_cons h
      rw [fields, if_neg hc, ih hrest]

/-- A separator ends the first field and starts the fields behind it. -/
theorem fields_append_cons {sep : Char} {before : List Char} (h : sep ∉ before)
    (after : List Char) : fields sep (before ++ sep :: after) = before :: fields sep after := by
  induction before with
  | nil => simp [fields]
  | cons c rest ih =>
      have hc : c ≠ sep := (List.ne_of_not_mem_cons h).symm
      have hrest : sep ∉ rest := List.not_mem_of_not_mem_cons h
      rw [List.cons_append, fields, if_neg hc, ih hrest]

/-- Two fields are the two sides of the only separator. -/
theorem fields_eq_pair_iff {sep : Char} {cs left right : List Char} :
    fields sep cs = [left, right] ↔ cs = left ++ sep :: right ∧ sep ∉ left ∧ sep ∉ right := by
  constructor
  · intro h
    refine ⟨?_, ?_, ?_⟩
    · rw [← joinWith_fields sep cs, h]
      rfl
    · exact @not_mem_of_mem_fields sep cs left (by simp [h])
    · exact @not_mem_of_mem_fields sep cs right (by simp [h])
  · rintro ⟨rfl, hleft, hright⟩
    rw [fields_append_cons hleft, fields_of_not_mem hright]

/-- The first field is what stands before the first separator. -/
theorem fields_eq_takeWhile_cons (sep : Char) (cs : List Char) :
    fields sep cs = cs.takeWhile (· ≠ sep) :: (fields sep cs).tail := by
  induction cs with
  | nil => rfl
  | cons c rest ih =>
      by_cases hc : c = sep
      · simp [fields, hc]
      · rw [fields, if_neg hc, ih]
        simp [hc]

theorem fst_cut (sep : Char) (cs : List Char) : (cut sep cs).1 = cs.takeWhile (· ≠ sep) := by
  induction cs with
  | nil => rfl
  | cons c rest ih =>
      by_cases hc : c = sep
      · simp [cut, hc]
      · simp [cut, hc, ih]

/-- What stands behind the first separator; nothing does where there is none. -/
theorem getD_snd_cut (sep : Char) (cs : List Char) :
    (cut sep cs).2.getD [] = (cs.dropWhile (· ≠ sep)).tail := by
  induction cs with
  | nil => rfl
  | cons c rest ih =>
      by_cases hc : c = sep
      · simp [cut, hc]
      · simp [cut, hc, ih]

/-- A text is cut at its first separator. -/
theorem cut_append_cons {sep : Char} {before : List Char} (h : sep ∉ before)
    (after : List Char) : cut sep (before ++ sep :: after) = (before, some after) := by
  induction before with
  | nil => simp [cut]
  | cons c rest ih =>
      have hc : c ≠ sep := (List.ne_of_not_mem_cons h).symm
      rw [List.cons_append, cut, if_neg hc, ih (List.not_mem_of_not_mem_cons h)]

/-- Cutting commutes with a change of characters that leaves the separator alone. -/
theorem fields_map {sep : Char} {f : Char → Char} (h : ∀ c, f c = sep ↔ c = sep)
    (cs : List Char) : fields sep (cs.map f) = (fields sep cs).map (List.map f) := by
  induction cs with
  | nil => rfl
  | cons c rest ih =>
      by_cases hc : c = sep
      · rw [List.map_cons, fields, fields, if_pos hc, if_pos ((h c).mpr hc), ih]
        rfl
      · obtain ⟨first, more, hfields⟩ := List.exists_cons_of_ne_nil (fields_ne_nil sep rest)
        rw [List.map_cons, fields, fields, if_neg hc, if_neg (mt (h c).mp hc), ih, hfields]
        rfl

end SignOut.Text
