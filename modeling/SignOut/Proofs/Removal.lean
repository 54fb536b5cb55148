import SignOut.Store

/-!
# Removals from the session store

The stage changes the session store in two ways only: it deletes the record under a key, and it
removes a member from a set.  Removals only take away, so they commute with each other, and a
removal that was made once leaves nothing for a second one to do, whatever was removed in between.
-/

namespace SignOut

/-- A removal from the session store. -/
inductive Removal where
  | record (key : String)
  | member (set item : String)
deriving DecidableEq

/-- The operation of the store by which a removal is made. -/
def Removal.operation : Removal → StoreOperation
  | .record _ => .delete
  | .member _ _ => .remove

namespace Store

variable (s : Store)

/-- The store after a removal. -/
def clear : Removal → Store
  | .record key => s.delete key
  | .member set item => s.remove set item

/-- The store after several removals. -/
def clearAll (removals : List Removal) : Store :=
  removals.foldl clear s

@[simp] theorem clearAll_nil : s.clearAll [] = s := rfl

@[simp] theorem clearAll_cons (r : Removal) (removals : List Removal) :
    s.clearAll (r :: removals) = (s.clear r).clearAll removals := rfl

@[simp] theorem clearAll_append (removals others : List Removal) :
    s.clearAll (removals ++ others) = (s.clearAll removals).clearAll others := by
  simp [clearAll]

@[simp] theorem refuses_clear (r : Removal) : (s.clear r).refuses = s.refuses := by
  cases r with
  | record key => rfl
  | member set item => rfl

@[simp] theorem refuses_clearAll (removals : List Removal) :
    (s.clearAll removals).refuses = s.refuses := by
  induction removals generalizing s with
  | nil => rfl
  | cons r rest ih => rw [clearAll_cons, ih, refuses_clear]

/-! ## Removals commute -/

theorem delete_comm (key other : String) :
    (s.delete key).delete other = (s.delete other).delete key := by
  unfold delete
  simp only [List.filter_filter, Bool.and_comm]

theorem remove_comm (set item other member : String) :
    (s.remove set item).remove other member = (s.remove other member).remove set item := by
  unfold remove
  simp only [List.map_map]
  congr 1
  refine List.map_congr_left fun entry _ => ?_
  -- only where both removals are made from the same set do the filters meet
  by_cases hset : entry.1 = set
  · by_cases hother : entry.1 = other
    · simp only [Function.comp_apply, if_pos hset, if_pos hother, List.filter_filter, Bool.and_comm]
    · simp only [Function.comp_apply, if_pos hset, if_neg hother]
  · by_cases hother : entry.1 = other
    · simp only [Function.comp_apply, if_neg hset, if_pos hother]
    · simp only [Function.comp_apply, if_neg hset, if_neg hother]

theorem clear_comm (r t : Removal) : (s.clear r).clear t = (s.clear t).clear r := by
  cases r with
  | record key =>
      cases t with
      | record other => exact s.delete_comm key other
      | member set item => rfl
  | member set item =>
      cases t with
      | record other => rfl
      | member other member => exact s.remove_comm set item other member

theorem clearAll_clear (removals : List Removal) (r : Removal) :
    (s.clear r).clearAll removals = (s.clearAll removals).clear r := by
  induction removals generalizing s with
  | nil => rfl
  | cons t rest ih => rw [clearAll_cons, clear_comm, ih, clearAll_cons]

/-- It makes no difference which of two series of removals is made first. -/
theorem clearAll_comm (removals others : List Removal) :
    (s.clearAll removals).clearAll others = (s.clearAll others).clearAll removals := by
  induction others generalizing s with
  | nil => rfl
  | cons r rest ih => rw [clearAll_cons, clearAll_cons, ← clearAll_clear, ih]

/-! ## Removals that were made -/

theorem clear_clear (r : Removal) : (s.clear r).clear r = s.clear r := by
  cases r with
  | record key =>
      show (s.delete key).delete key = s.delete key
      unfold delete
      simp only [List.filter_filter, Bool.and_self]
  | member set item =>
      show (s.remove set item).remove set item = s.remove set item
      unfold remove
      simp only [List.map_map]
      congr 1
      refine List.map_congr_left fun entry _ => ?_
      by_cases hset : entry.1 = set
      · simp only [Function.comp_apply, if_pos hset, List.filter_filter, Bool.and_self]
      · simp only [Function.comp_apply, if_neg hset]

/-- A removal that was made leaves nothing for a second one to do, whatever is removed after it. -/
theorem clear_of_mem {r : Removal} {removals : List Removal} (h : r ∈ removals) :
    (s.clearAll removals).clear r = s.clearAll removals := by
  induction removals generalizing s with
  | nil => cases h
  | cons t rest ih =>
      rcases List.mem_cons.mp h with rfl | h
      · rw [clearAll_cons, ← clearAll_clear, clear_clear]
      · exact ih _ h

/-- Removals that were all made before leave nothing to do. -/
theorem clearAll_of_subset {removals others : List Removal} (h : others ⊆ removals) :
    (s.clearAll removals).clearAll others = s.clearAll removals := by
  induction others with
  | nil => rfl
  | cons r rest ih =>
      rw [clearAll_cons, clear_of_mem s (h List.mem_cons_self)]
      exact ih fun t ht => h (List.mem_cons_of_mem _ ht)

end Store

end SignOut
