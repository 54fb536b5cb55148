/-!
# Boolean combinations

A combination asks its parts from left to right and stops as soon as the answer is known.  The
evaluation is stated for leaves with effects, so that it also says which leaves are asked and
in which order.
-/

namespace SignOut

/-- A boolean combination of leaves. -/
inductive Formula (α : Type) where
  | atom (a : α)
  | all (parts : List (Formula α))
  | any (parts : List (Formula α))
  | negation (part : Formula α)

namespace Formula

variable {α : Type} {m : Type → Type} [Monad m]

mutual

/-- The answer of a combination, given how a leaf is asked. -/
def eval (leaf : α → m Bool) : Formula α → m Bool
  | .atom a => leaf a
  | .all parts => evalAll leaf parts
  | .any parts => evalAny leaf parts
  | .negation part => do return !(← eval leaf part)

/-- Whether all parts agree; the first that does not ends the question. -/
def evalAll (leaf : α → m Bool) : List (Formula α) → m Bool
  | [] => pure true
  | part :: rest => do
      if ← eval leaf part then evalAll leaf rest else pure false

/-- Whether one of the parts agrees; the first that does ends the question. -/
def evalAny (leaf : α → m Bool) : List (Formula α) → m Bool
  | [] => pure false
  | part :: rest => do
      if ← eval leaf part then pure true else evalAny leaf rest

end

end Formula

end SignOut
