/-!
# First-match dispatch

A dispatch tree ends in answers.  Each of its inner nodes asks the matchers of its routes in
order; the first that selects the request decides, and the fallback answers when none does.
Routes and fallbacks may be dispatch trees again.
-/

namespace SignOut

/-- A tree of routes over matchers, with answers at its ends. -/
inductive Dispatch (μ α : Type) where
  | answer (a : α)
  | routed (routes : List (μ × Dispatch μ α)) (fallback : Dispatch μ α)

namespace Dispatch

variable {μ α : Type} {m : Type → Type} [Monad m]

mutual

/-- Dispatch a request, given how a matcher is asked and an answer is given. -/
def run (ask : μ → m Bool) (give : α → m Unit) : Dispatch μ α → m Unit
  | .answer a => give a
  | .routed routes fallback => runRoutes ask give (run ask give fallback) routes

/-- Try routes in order, with the action that runs when none is selected. -/
def runRoutes (ask : μ → m Bool) (give : α → m Unit) (otherwise : m Unit) :
    List (μ × Dispatch μ α) → m Unit
  | [] => otherwise
  | (matcher, target) :: rest => do
      if ← ask matcher then run ask give target else runRoutes ask give otherwise rest

end

/-- The target of the first route whose matcher selects the request. -/
def selectRoute (ask : μ → m Bool) (fallback : Dispatch μ α) :
    List (μ × Dispatch μ α) → m (Dispatch μ α)
  | [] => pure fallback
  | (matcher, target) :: rest => do
      if ← ask matcher then pure target else selectRoute ask fallback rest

mutual

/-- The answers at the ends of a tree from left to right, those of a fallback last. -/
def answers : Dispatch μ α → List α
  | .answer a => [a]
  | .routed routes fallback => answersOf routes ++ answers fallback

/-- The answers at the ends of routes from left to right. -/
def answersOf : List (μ × Dispatch μ α) → List α
  | [] => []
  | (_, target) :: rest => answers target ++ answersOf rest

end

end Dispatch

end SignOut
