/-!
# Nested chains

A chain is one action or a sequence of chains.  Running it runs every action from left to
right; nothing but a fault of the surrounding monad ends it early, and grouping adds no effect
of its own.
-/

namespace SignOut

/-- Actions in order, grouped to any depth. -/
inductive Chain (α : Type) where
  | one (action : α)
  | many (parts : List (Chain α))

namespace Chain

variable {α : Type} {m : Type → Type} [Monad m]

mutual

/-- Run the actions of a chain, given how one is run. -/
def run (act : α → m Unit) : Chain α → m Unit
  | .one action => act action
  | .many parts => runAll act parts

/-- Run several chains, one after another. -/
def runAll (act : α → m Unit) : List (Chain α) → m Unit
  | [] => pure ()
  | part :: rest => do
      run act part
      runAll act rest

end

mutual

/-- The actions of a chain from left to right. -/
def actions : Chain α → List α
  | .one action => [action]
  | .many parts => actionsAll parts

/-- The actions of several chains from left to right. -/
def actionsAll : List (Chain α) → List α
  | [] => []
  | part :: rest => actions part ++ actionsAll rest

end

end Chain

end SignOut
