import SignOut.Configuration

/-!
# The sign-out stage

A request that the stage does not recognise passes through untouched.  A recognised request
runs every handler and then exactly one success handler on a fresh response, and the completed
sign-out is logged.
-/

namespace SignOut

/-- A stage built from a configuration. -/
structure Stage where
  configuration : Configuration
  handler : Handler
  success : Success

namespace Stage

/-- The logger of completed sign-outs. -/
def logger : String := "neo_logout.filter"

/-- The stage of a configuration; every part of it must be given. -/
def ofConfiguration (c : Configuration) : Except InvalidArgument Stage := do
  let handler ← Handler.composite c.handlers
  let success ← Success.delegating c.routes c.fallback
  return { configuration := c, handler, success }

/-- Whether the stage recognises the request. -/
def requiresLogout (s : Stage) : Run Bool :=
  s.configuration.matcher.ask

/-- The log record of a completed sign-out through a path. -/
def completion (path : String) (e : Exchange) : LogRecord :=
  let method := e.request.method
  let status := (e.response.status.map toString).getD "None"
  { level := .info, logger
    message := s!"Logout completed: path={path}, method={method}, status={status}" }

/-- Run the handlers and the success handler on a fresh response, and log the completion.  A
request whose target cannot be read is not signed out. -/
def signOut (s : Stage) (principal : Option Principal) : Run Response := do
  let path ← Run.urlPath
  Run.modifyResponse fun _ => Response.initial
  s.handler.perform principal
  s.success.give principal
  let e ← get
  Run.log (completion path e)
  return e.response

/-- Answer a recognised request; any other one has no answer. -/
def process (s : Stage) (principal : Option Principal) : Run (Option Response) := do
  if ← s.requiresLogout then return some (← s.signOut principal) else return none

/-- The text of a stage, where its matcher has one. -/
def text? (s : Stage) : Option String :=
  s.configuration.matcher.text?.map fun matcher =>
    let count := s.configuration.handlers.length
    s!"LogoutFilter(matcher={matcher}, handlers={count})"

end Stage

/-- A filter of the application: the name of its type, and what it does with a request.  It may do
anything, and in the end it answers or lets the request pass. -/
structure Substitute where
  typeName : String
  process : Option Principal → Run (Option Response)

/-- What is installed: a stage, a stage behind a wrapper that records its calls, or a filter of the
application in the place of the stage. -/
inductive Filter where
  | stage (s : Stage)
  | decorated (s : Stage)
  | substitute (s : Substitute)

namespace Filter

/-- The name of a filter's type. -/
def typeName : Filter → String
  | .stage _ => "LogoutFilter"
  | .decorated _ => "DecoratedFilter"
  | .substitute s => s.typeName

/-- Answer a request, or let it pass without an answer. -/
def process (principal : Option Principal) : Filter → Run (Option Response)
  | .stage s => s.process principal
  | .decorated s => do
      Run.record .decoratedProcess
      s.process principal
  | .substitute s => s.process principal

end Filter

/-- A filter that lets the stage answer that was built: the stage itself, or the stage behind the
wrapper. -/
inductive StageFilter where
  | stage (s : Stage)
  | decorated (s : Stage)

namespace StageFilter

/-- The stage that answers. -/
def bare : StageFilter → Stage
  | .stage s => s
  | .decorated s => s

/-- The filter as one that can be installed. -/
def toFilter : StageFilter → Filter
  | .stage s => .stage s
  | .decorated s => .decorated s

instance : Coe StageFilter Filter := ⟨toFilter⟩

/-- Answer a recognised request. -/
abbrev process (principal : Option Principal) (filter : StageFilter) : Run (Option Response) :=
  filter.toFilter.process principal

end StageFilter

end SignOut
