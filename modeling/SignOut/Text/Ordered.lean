/-!
# Sets of texts

A set of texts is kept as its members in the order of their code points, each once.
-/

namespace SignOut.Text

/-- The first text comes before the second or equals it, by code points. -/
def precedes (a b : String) : Bool :=
  decide (a ≤ b)

/-- The members of a list in order and each once. -/
def ordered (items : List String) : List String :=
  items.eraseDups.mergeSort precedes

@[simp] theorem mem_ordered {s : String} {items : List String} :
    s ∈ ordered items ↔ s ∈ items := by
  simp [ordered, List.mem_mergeSort]

end SignOut.Text
