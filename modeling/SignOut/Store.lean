/-!
# The session store

Session records are kept under keys, and every user's sessions are indexed in a set.  The store
can be told to refuse one of its two operations, as a store that cannot be reached does.
-/

namespace SignOut

/-- The operations of the session store. -/
inductive StoreOperation where
  | delete
  | remove
deriving DecidableEq, Repr

/-- The records and index sets of the session store. -/
structure Store where
  keys : List String
  sets : List (String × List String)
  refuses : Option StoreOperation
deriving DecidableEq

namespace Store

/-- A store without records. -/
def empty : Store := { keys := [], sets := [], refuses := none }

/-- The members of a set; a set that does not exist has none. -/
def members (s : Store) (name : String) : List String :=
  (s.sets.lookup name).getD []

/-- The number of records that deleting a key removes. -/
def countOf (s : Store) (key : String) : Nat :=
  if key ∈ s.keys then 1 else 0

/-- The store without the record under a key. -/
def delete (s : Store) (key : String) : Store :=
  { s with keys := s.keys.filter (· ≠ key) }

/-- The store without a member of a set. -/
def remove (s : Store) (name member : String) : Store :=
  { s with
    sets := s.sets.map fun entry =>
      if entry.1 = name then (entry.1, entry.2.filter (· ≠ member)) else entry }

@[simp] theorem mem_keys_delete {s : Store} {key other : String} :
    other ∈ (s.delete key).keys ↔ other ∈ s.keys ∧ other ≠ key := by
  simp [delete]

@[simp] theorem members_delete (s : Store) (key name : String) :
    (s.delete key).members name = s.members name := rfl

@[simp] theorem keys_remove (s : Store) (name member : String) :
    (s.remove name member).keys = s.keys := rfl

/-- Removing a member changes the members of its set alone. -/
theorem members_remove (s : Store) (name member other : String) :
    (s.remove name member).members other =
      if other = name then (s.members other).filter (· ≠ member) else s.members other := by
  unfold members remove
  induction s.sets with
  | nil => simp
  | cons entry rest ih =>
      obtain ⟨set, present⟩ := entry
      by_cases hother : other = set
      · subst hother
        by_cases hname : other = name
        · simp [hname]
        · simp [hname]
      · have hskip : (other == set) = false := beq_false_of_ne hother
        by_cases hname : set = name
        · simp only [List.map_cons, if_pos hname, List.lookup_cons, hskip]
          exact ih
        · simp only [List.map_cons, if_neg hname, List.lookup_cons, hskip]
          exact ih

@[simp] theorem mem_members_remove {s : Store} {name member other item : String} :
    item ∈ (s.remove name member).members other ↔
      item ∈ s.members other ∧ (other = name → item ≠ member) := by
  rw [members_remove]
  split
  · rename_i h
    simp [h]
  · rename_i h
    simp [h]

end Store

end SignOut
