import SignOut.Dispatch
import SignOut.Handler
import SignOut.Matcher
import SignOut.Negotiation

/-!
# Success handlers

Once the handlers have run, exactly one success handler writes the answer: a redirect, a bare
status, or whichever of the two the request negotiates.  Routes choose among several.
-/

namespace SignOut

/-- A single success handler. -/
inductive Success.Answer where
  | redirect (url : String)
  | status (code : Option Int)
  | negotiating (loginPath : String)
  | recording (name : String) (code : Option Int)
  | failing (message : String)
  | custom (collaborator : Collaborator)
  | unawaited (typeName : String)
  | foreign (value : Foreign)

/-- A success handler: single ones under routes. -/
abbrev Success := Dispatch Matcher Success.Answer

namespace Success

/-- The status of an answer without content. -/
def noContentStatus : Int := 204

/-- The header that marks script-driven requests. -/
def scriptHeader : String := "X-Requested-With"

/-- Where a negotiated redirect leads. -/
def loginTarget (loginPath : String) : String :=
  loginPath ++ "?logout"

/-- Write a redirect.  A target that is left blank or cannot be sent leaves the header lines as
they are. -/
def writeRedirect (url : Option String) : Run Unit := do
  Run.modifyResponse fun r => { r with status := some 302 }
  match url with
  | none => Run.stop (.lacks "NoneType" "encode")
  | some url => Run.setHeader "location" url

/-- Write a bare status. -/
def writeStatus (code : Option Int) : Run Unit :=
  Run.modifyResponse fun r => r.withoutContent code

/-- The answer that the request asks for. -/
def resolve : Run Outcome := do
  let accept ← Run.header? "accept"
  let requestedWith ← Run.header? scriptHeader
  return Negotiation.outcome accept requestedWith

/-- Write the answer that the request asks for, once its target was found readable. -/
def writeNegotiated (loginPath : String) : Run Unit := do
  let outcome ← resolve
  let _ ← Run.urlPath
  match outcome with
  | .noContent => writeStatus (some noContentStatus)
  | .redirect => writeRedirect (some (loginTarget loginPath))

/-- Write the answer of a single success handler. -/
def Answer.give (principal : Option Principal) : Answer → Run Unit
  | .redirect url => writeRedirect (some url)
  | .status code => writeStatus code
  | .negotiating loginPath => writeNegotiated loginPath
  | .recording name code => do
      Run.record (.succeeded name principal)
      Run.modifyResponse fun r => { r with status := code }
  | .failing message => Run.stop (.raised message)
  | .custom collaborator => collaborator.engage principal
  | .unawaited _ => Run.stop .notAwaitable
  | .foreign value => Run.stop (.lacks value.typeName "on_logout_success")

/-- Run a success handler for a principal. -/
def give (principal : Option Principal) (handler : Success) : Run Unit :=
  handler.run Matcher.ask (Answer.give principal)

/-- The handler that a request selects among the routes of a success handler; a handler without
routes is itself selected. -/
def select : Success → Run Success
  | .answer a => return .answer a
  | .routed routes fallback => Dispatch.selectRoute Matcher.ask fallback routes

/-- No value at all stands in the handler's place. -/
def isNothing : Success → Bool
  | .answer (.foreign .nothing) => true
  | _ => false

/-- The type of the value in the handler's place, where it does not define the operation. -/
def unfitType? : Success → Option String
  | .answer (.foreign value) => some value.typeName
  | .answer (.unawaited typeName) => some typeName
  | _ => none

/-- A success handler that must be given. -/
def require (handler : Success) (argument : String) : Except InvalidArgument Success :=
  if handler.isNothing then .error (.missing argument) else .ok handler

/-- A success handler that must be given and must define the operation. -/
def requireFit (handler : Success) (argument : String) : Except InvalidArgument Success := do
  let handler ← require handler argument
  match handler.unfitType? with
  | none => return handler
  | some typeName => .error { argument, fault := .notASuccessHandler typeName }

/-- The redirect to a target that must be given. -/
def ofUrl (url : Option String) (argument : String) : Except InvalidArgument Success := do
  return .answer (.redirect (← InvalidArgument.require url argument))

/-- The negotiated answer for a login path that must be given. -/
def ofLoginPath (path : Option String) : Except InvalidArgument Success := do
  return .answer (.negotiating (← InvalidArgument.require path "login_path"))

/-- A route whose matcher and handler must be given. -/
def requireRoute (route : Matcher × Success) : Except InvalidArgument (Matcher × Success) := do
  let matcher ← Matcher.require route.1 "matcher"
  let handler ← require route.2 "handler"
  return (matcher, handler)

/-- The dispatch over routes with a fallback, all of which must be given. -/
def delegating (routes : List (Matcher × Success)) (fallback : Success) :
    Except InvalidArgument Success := do
  let routes ← routes.mapM requireRoute
  return .routed routes (← require fallback "default_handler")

end Success

end SignOut
