import SignOut.Chain
import SignOut.Collaborator
import SignOut.Error
import SignOut.Switch

/-!
# Sign-out handlers

A handler performs the side effects of a sign-out: it expires cookies, clears the session and
the signed-in user, removes the stored session, discards the request-forgery token, or
publishes the event.  Handlers are grouped into chains; every handler of a chain runs with the
same principal, and a fault ends the chain.
-/

namespace SignOut

/-- Where a stored session is found and under which keys it lies in the session store. -/
structure SessionRemoval where
  keyPrefix : Option String
  sessionKey : Option String
  cookieName : Option String
deriving DecidableEq

namespace SessionRemoval

/-- The places used unless others are given. -/
def standard : SessionRemoval :=
  { keyPrefix := some "auth_session", sessionKey := some "session_id", cookieName := none }

/-- What keys start with: the configured text, or the word for nothing. -/
def leader (s : SessionRemoval) : String :=
  s.keyPrefix.getD "None"

/-- The key of a session record. -/
def recordKey (s : SessionRemoval) (id : String) : String :=
  s.leader ++ ":" ++ id

/-- The name of the set that indexes a user's sessions. -/
def indexName (s : SessionRemoval) (user : Json) : String :=
  s.leader ++ ":user:" ++ user.plainText ++ ":global"

/-- The session id that the configured cookie carries. -/
def cookieId? (s : SessionRemoval) (r : Request) : Option String :=
  match s.cookieName with
  | none => none
  | some name => if name = "" then none else Keyed.get? name (Cookie.ofRequest r)

/-- The entry of the session under the configured key, if there is one. -/
def entry? (s : SessionRemoval) (r : Request) : Option Json := do
  Keyed.get? (← s.sessionKey) (← r.session)

/-- The id of the stored session: the entry of the session if it counts as given, otherwise
the configured cookie. -/
def sessionId? (s : SessionRemoval) (r : Request) : Option String :=
  match s.entry? r with
  | none => s.cookieId? r
  | some value => if value.isTruthy then some value.plainText else s.cookieId? r

end SessionRemoval

/-- The owner of request-forgery tokens, and the cookie in which it keeps them. -/
structure TokenRepository where
  cookie : Option String
deriving DecidableEq

/-- A publisher of events; one that fails does so in the given words. -/
structure Publisher where
  failure : Option String
deriving DecidableEq

/-- A handler that records its calls and may write to the response. -/
structure RecordingHandler where
  name : String
  seenSessionKey : Option String
  status : Option Int
  headers : List HeaderLine
  body : Option String
deriving DecidableEq

/-- A single handler. -/
inductive Handler.Action where
  | expireCookies (names : List String) (path domain : Option String)
  | clearContext (session authentication : Switch)
  | removeSession (removal : SessionRemoval)
  | clearToken (repository : TokenRepository)
  | publishEvent (publisher : Publisher)
  | recording (handler : RecordingHandler)
  | failing (message : String)
  | forgetUser
  | custom (collaborator : Collaborator)
  | unawaited (typeName : String)
  | foreign (value : Foreign)

/-- A handler: a chain of single ones. -/
abbrev Handler := Chain Handler.Action

namespace Handler

/-- The logger of session removals. -/
def removalLogger : String := "neo_logout.handlers.redis_session"

/-- Clear the session, the signed-in user and the user context as far as asked.  An absent
session or user stays absent; the user context is empty afterwards. -/
def clearedRequest (session authentication : Bool) (r : Request) : Request :=
  let r := if session then { r with session := r.session.map fun _ => [] } else r
  if authentication then
    { r with userContext := some none, user := r.user.map fun _ => some .anonymous }
  else r

/-- Remove a stored session from the index of its user, if the principal has one. -/
def removeFromIndex (s : SessionRemoval) (principal : Option Principal) (id : String) :
    Run Unit :=
  match principal.bind Principal.indexId? with
  | none => return ()
  | some user => Run.removeMember (s.indexName user) id

/-- The log record of a removal, with the number of records that it removed. -/
def removal (deleted : Nat) : LogRecord :=
  { level := .info, logger := removalLogger
    message := s!"Removed server-side session (deleted={deleted})" }

/-- Remove the stored session of the request and its entry in the user's index. -/
def removeSession (s : SessionRemoval) (principal : Option Principal) : Run Unit := do
  match s.sessionId? (← Run.request) with
  | none => return ()
  | some id =>
      if id = "" then return ()
      else
        let deleted ← Run.deleteKey (s.recordKey id)
        removeFromIndex s principal id
        Run.log (removal deleted)

/-- Have the repository discard the token of the request. -/
def clearToken (repository : TokenRepository) : Run Unit := do
  Run.record (.clearedToken (← Run.urlPath))
  match repository.cookie with
  | none => return ()
  | some name => Run.expireCookie name (some "/") none

/-- The event of signing out a principal through the request as it is now. -/
def newEvent (principal : Option Principal) : Run Event := do
  let path ← Run.urlPath
  let timestamp ← Run.timestamp
  let r ← Run.request
  return {
    principal
    path := some path
    method := some r.method
    clientHost := r.client
    timestamp
    source := some Event.defaultSource
    metadata := .object [] }

/-- Hand the event of the sign-out to the publisher. -/
def publishEvent (publisher : Publisher) (principal : Option Principal) : Run Unit := do
  Run.record (.published (← newEvent principal))
  match publisher.failure with
  | none => return ()
  | some message => Run.stop (.raised message)

/-- Add header lines to the response in order. -/
def addHeaders : List HeaderLine → Run Unit
  | [] => return ()
  | line :: rest => do
      Run.addHeader line.1 line.2
      addHeaders rest

/-- Record what the session holds under the key that a handler looks at, if it looks at one. -/
def recordSession (h : RecordingHandler) : Run Unit :=
  match h.seenSessionKey with
  | none => return ()
  | some key => do Run.record (.sawSession ((← Run.request).session.bind (Keyed.get? key)))

/-- The response with the status of a recording handler, if it sets one. -/
def withStatus (h : RecordingHandler) (r : Response) : Response :=
  match h.status with
  | none => r
  | some status => { r with status := some status }

/-- The response with the body of a recording handler, if it sets one. -/
def withBody (h : RecordingHandler) (r : Response) : Response :=
  match h.body with
  | none => r
  | some body => { r with body }

/-- Record the call and write to the response. -/
def runRecording (h : RecordingHandler) (principal : Option Principal) : Run Unit := do
  Run.record (.loggedOut h.name principal)
  recordSession h
  Run.modifyResponse (withStatus h)
  addHeaders h.headers
  Run.modifyResponse (withBody h)

/-- Expire cookies one after another. -/
def expireCookies (path domain : Option String) : List String → Run Unit
  | [] => return ()
  | name :: rest => do
      Run.expireCookie name path domain
      expireCookies path domain rest

/-- Perform the effect of a single handler. -/
def Action.perform (principal : Option Principal) : Action → Run Unit
  | .expireCookies names path domain => Handler.expireCookies path domain names
  | .clearContext session authentication =>
      Run.modifyRequest (clearedRequest session.isOn authentication.isOn)
  | .removeSession removal => Handler.removeSession removal principal
  | .clearToken repository => Handler.clearToken repository
  | .publishEvent publisher => Handler.publishEvent publisher principal
  | .recording h => runRecording h principal
  | .failing message => do
      Run.record .failedLogout
      Run.stop (.raised message)
  | .forgetUser => Run.record (.forgotten principal)
  | .custom collaborator => collaborator.engage principal
  | .unawaited _ => Run.stop .notAwaitable
  | .foreign value => Run.stop (.lacks value.typeName "logout")

/-- Run a handler for a principal. -/
def perform (principal : Option Principal) (handler : Handler) : Run Unit :=
  handler.run (Action.perform principal)

/-- No value at all stands in the handler's place. -/
def isNothing : Handler → Bool
  | .one (.foreign .nothing) => true
  | _ => false

/-- The type of the value in the handler's place, where it does not define the operation. -/
def unfitType? : Handler → Option String
  | .one (.foreign value) => some value.typeName
  | .one (.unawaited typeName) => some typeName
  | _ => none

/-- A handler that must be given. -/
def require (handler : Handler) (argument : String) : Except InvalidArgument Handler :=
  if handler.isNothing then .error (.missing argument) else .ok handler

/-- A handler that must be given and must define the operation. -/
def requireFit (handler : Handler) (argument : String) : Except InvalidArgument Handler := do
  let handler ← require handler argument
  match handler.unfitType? with
  | none => return handler
  | some typeName => .error { argument, fault := .notAHandler typeName }

/-- The handler that expires cookies by name; every name must be a text that is not empty. -/
def ofCookies (names : List (Option String)) (path domain : Option String) :
    Except InvalidArgument Handler :=
  if names.all (fun name => (name.getD "") ≠ "") then
    .ok (.one (.expireCookies (names.filterMap id) path domain))
  else .error { argument := "cookie_names", fault := .emptyCookieName }

/-- The handler that runs several handlers in order; every one must be given. -/
def composite (handlers : List Handler) : Except InvalidArgument Handler := do
  return .many (← handlers.mapM fun handler => require handler "handler")

/-- The handler that removes the stored session from a store, if one is given. -/
def ofStore (isGiven : Bool) (removal : SessionRemoval) : Except InvalidArgument Handler :=
  if isGiven then .ok (.one (.removeSession removal)) else .error (.missing "redis_client")

/-- The handler that discards the request-forgery token. -/
def ofRepository (repository : Option TokenRepository) : Except InvalidArgument Handler := do
  return .one (.clearToken (← InvalidArgument.require repository "token_repository"))

/-- The handler that publishes the event of the sign-out. -/
def ofPublisher (publisher : Option Publisher) : Except InvalidArgument Handler := do
  return .one (.publishEvent (← InvalidArgument.require publisher "publisher"))

end Handler

end SignOut
