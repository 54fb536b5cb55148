import SignOut.Stage

/-!
# The gate in front of an application

A gate finds the principal of a request and lets its filter answer.  Requests without an answer
are passed on to whatever lies behind the gate.  Gates wrap an application one around another.
-/

namespace SignOut

/-- How the principal of a request is found. -/
inductive Resolver where
  | signedIn
  | header (name : String)

/-- The principal of the request. -/
def Resolver.principal : Resolver → Run (Option Principal)
  | .signedIn => do return (← Run.request).principal?
  | .header name => do return (← Run.header? name).map Principal.text

/-- A filter with the way its principal is found. -/
structure Gate where
  filter : Filter
  resolver : Resolver

namespace Gate

/-- Answer a request at a gate, or pass it on. -/
def dispatch (gate : Gate) (next : Run Response) : Run Response := do
  let principal ← gate.resolver.principal
  match ← gate.filter.process principal with
  | some response => return response
  | none => next

/-- The answer of an application in front of which no gate stands any more. -/
def downstream : Response := Response.fresh "downstream" 200

/-- The next application behind a single gate: it records that the request was passed on. -/
def passOn : Run Response := do
  Run.record .passedOn
  return downstream

/-- The innermost application: it records the request that reached it. -/
def application : Run Response := do
  let r ← Run.request
  Run.record (.reachedApplication r.method r.path)
  return downstream

/-- A request to an application behind gates, the outermost first. -/
def enter : List Gate → Run Response
  | [] => application
  | gate :: inner => gate.dispatch (enter inner)

end Gate

end SignOut
