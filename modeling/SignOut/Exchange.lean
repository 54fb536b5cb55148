import SignOut.Clock
import SignOut.Fault
import SignOut.Http.Cookie
import SignOut.Http.Response
import SignOut.Store
import SignOut.Trace

/-!
# The state of an exchange

Handlers work on one request and one response, on the session store, and on what can be
observed of the run.  A run either completes or stops at a fault; in both cases the state that
it reached stays, so the effects before a fault are never undone.  The time of an exchange is the
second that its clock shows: on the clock of the machine a second of `Clock.Shows`, on a clock that
was set by hand any second.
-/

namespace SignOut

/-- Everything that a run can read or change. -/
structure Exchange where
  now : Int
  request : Request
  response : Response
  store : Store
  calls : List Call
  records : List LogRecord

/-- A step of a run: it changes the exchange and completes or stops at a fault. -/
abbrev Run := ExceptT Fault (StateM Exchange)

namespace Run

variable {α : Type}

/-- The result of a run from a state, and the state that it reached. -/
def exec (action : Run α) (e : Exchange) : Except Fault α × Exchange :=
  StateT.run (ExceptT.run action) e

/-- Stop at a fault. -/
def stop (fault : Fault) : Run α :=
  throw fault

/-- Record a call that a collaborator received. -/
def record (call : Call) : Run Unit :=
  modify fun e => { e with calls := e.calls ++ [call] }

/-- Write a log record. -/
def log (entry : LogRecord) : Run Unit :=
  modify fun e => { e with records := e.records ++ [entry] }

/-- The request as it is now. -/
def request : Run Request := do
  return (← get).request

/-- Change the request. -/
def modifyRequest (f : Request → Request) : Run Unit :=
  modify fun e => { e with request := f e.request }

/-- Change the response. -/
def modifyResponse (f : Response → Response) : Run Unit :=
  modify fun e => { e with response := f e.response }

/-- The path by which the request is recognised. -/
def urlPath : Run String := do
  match (← request).urlPath with
  | .ok path => return path
  | .error run => stop (.undecodable run)

/-- The present moment as a timestamp.  Only a clock that was set by hand can show one that has
none. -/
def timestamp : Run Calendar.Timestamp := do
  match Calendar.Timestamp.ofSeconds (← get).now with
  | .ok timestamp => return timestamp
  | .error fault => stop (.refusedMoment fault)

/-- The value of a request header by a name in any case. -/
def header? (name : String) : Run (Option String) := do
  match (← request).header? name with
  | .ok value => return value
  | .error run => stop (.unencodable run)

/-- Stop unless a text fits one byte per character. -/
def requireLatin1 (text : String) : Run Unit :=
  match Text.unencodableRun? text.toList with
  | none => pure ()
  | some run => stop (.unencodable run)

/-- Set a header of the response; a value that cannot be sent leaves the header lines as they
are. -/
def setHeader (name value : String) : Run Unit := do
  requireLatin1 value
  modifyResponse (·.setHeader name value)

/-- Add a header line to the response. -/
def addHeader (name value : String) : Run Unit := do
  let name := Text.lowerText name
  requireLatin1 name
  requireLatin1 value
  modifyResponse (·.addHeader name value)

/-- Make the client forget a cookie. -/
def expireCookie (name : String) (path domain : Option String) : Run Unit := do
  if Cookie.isReserved name then stop (.reservedCookie name)
  else if !Cookie.isLegalName name then stop (.illegalCookie name)
  else
    match Cookie.deletion name path domain (← get).now with
    | .error fault => stop (.refusedMoment fault)
    | .ok line =>
        requireLatin1 line
        modifyResponse (·.addHeader "set-cookie" line)

/-- Ask the store to delete a key; the number of records removed. -/
def deleteKey (key : String) : Run Nat := do
  record (.deletedKey key)
  let e ← get
  if e.store.refuses = some .delete then stop (.raised "redis delete failed")
  else
    modify fun e => { e with store := e.store.delete key }
    return e.store.countOf key

/-- Ask the store to remove a member from a set. -/
def removeMember (set member : String) : Run Unit := do
  record (.removedMember set member)
  if (← get).store.refuses = some .remove then stop (.raised "redis srem failed")
  else modify fun e => { e with store := e.store.remove set member }

end Run

end SignOut
