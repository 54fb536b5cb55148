import SignOut.Exchange

/-!
# Collaborators of the application

An application brings handlers, success handlers and matchers of its own.  What such a handler
does is up to it: everything that it can see decides on its deed, which leaves a session, a user,
a user context, a response and a store behind, records calls, and completes or stops at a fault.
The target, the method and the header lines of the request, the clock and the log are out of its
reach.  A matcher only looks at the request: it may record that it was asked, and it answers or
stops at a fault.
-/

namespace SignOut

/-- What a collaborator leaves behind, the calls that it records, and how it ends. -/
structure Deed where
  session : Option (Keyed Json)
  user : Option (Option Principal)
  userContext : Option (Option Principal)
  response : Response
  store : Store
  calls : List Call
  outcome : Except Fault Unit

namespace Deed

/-- The exchange after a deed. -/
def applyTo (d : Deed) (e : Exchange) : Exchange :=
  { e with
    request :=
      { e.request with session := d.session, user := d.user, userContext := d.userContext }
    response := d.response
    store := d.store
    calls := e.calls ++ d.calls }

end Deed

/-- A handler or success handler of the application: the name of its type, and what it does for
a principal. -/
structure Collaborator where
  typeName : String
  act : Option Principal → Exchange → Deed

/-- A matcher of the application: the name of its type, whether it counts as true where a truth
value is asked of it, the calls that it records, and its answer.  A matcher that has a length of
its own counts as false while it is empty. -/
structure Observer where
  typeName : String
  isTrue : Bool := true
  calls : Request → List Call
  answer : Request → Except Fault Bool

/-- Have a collaborator act for a principal. -/
def Collaborator.engage (c : Collaborator) (principal : Option Principal) : Run Unit := do
  let deed := c.act principal (← get)
  modify deed.applyTo
  match deed.outcome with
  | .ok () => return ()
  | .error fault => Run.stop fault

/-- Ask a matcher of the application about the request. -/
def Observer.ask (o : Observer) : Run Bool := do
  let r ← Run.request
  (o.calls r).forM Run.record
  match o.answer r with
  | .ok result => return result
  | .error fault => Run.stop fault

end SignOut
