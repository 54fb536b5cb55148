import SignOut.Event
import SignOut.Log.Record

/-!
# What can be observed of a run

Collaborators record the calls they receive, and the stage writes log records.  Both are kept
in the order in which they happen.
-/

namespace SignOut

/-- A call that a collaborator received. -/
inductive Call where
  | probed (name : String)
  | loggedOut (name : String) (principal : Option Principal)
  | sawSession (value : Option Json)
  | failedLogout
  | clearedToken (path : String)
  | published (event : Event)
  | forgotten (principal : Option Principal)
  | deletedKey (key : String)
  | removedMember (set member : String)
  | succeeded (name : String) (principal : Option Principal)
  | postProcessed (filter : String)
  | decoratedProcess
  | passedOn
  | reachedApplication (method path : String)

end SignOut
