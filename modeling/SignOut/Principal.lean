import SignOut.Json

/-!
# Principals

Whoever is signed in: a bare name, a user record with an optional id, a user of the
authentication layer, its anonymous stand-in, or an object that says nothing about itself.
-/

namespace SignOut

/-- A value in the place of the signed-in user. -/
inductive Principal where
  | text (name : String)
  | user (name : String) (id : Option Json)
  | simple (name : String)
  | anonymous
  | plain

namespace Principal

/-- The principal says of itself that it is signed in. -/
def isAuthenticated : Principal → Bool
  | .simple _ => true
  | _ => false

/-- The id under which sessions of the principal are indexed; only user records have one. -/
def indexId? : Principal → Option Json
  | .user _ (some .null) => none
  | .user _ id => id
  | _ => none

/-- The principal as it is named in events. -/
def label : Principal → String
  | .text name => name
  | .user name _ => name
  | .simple name => "simple:" ++ name
  | .anonymous => "anonymous"
  | .plain => "plain"

end Principal

end SignOut
