import SignOut.Calendar
import SignOut.Principal

/-!
# The event of a completed sign-out

The record that listeners receive: who was signed out, through which request, and when.  What
is not known of it is left blank.
-/

namespace SignOut

/-- A completed sign-out. -/
structure Event where
  principal : Option Principal
  path : Option String
  method : Option String
  clientHost : Option String
  timestamp : Calendar.Timestamp
  source : Option String
  metadata : Json

namespace Event

/-- The source that events name unless another one is given. -/
def defaultSource : String := "neo_logout"

/-- The event as a value of the data format. -/
def toJson (e : Event) : Json :=
  .object
    [("event_type", .string "logout_succeeded"),
     ("principal", Json.ofText? (e.principal.map Principal.label)),
     ("path", Json.ofText? e.path),
     ("method", Json.ofText? e.method),
     ("client_host", Json.ofText? e.clientHost),
     ("event_timestamp", .string e.timestamp.toText),
     ("event_source", Json.ofText? e.source),
     ("metadata", e.metadata)]

end Event

end SignOut
