import SignOut.Stage

/-!
# Configuring the sign-out

The options of the sign-out, collected over any number of calls.  The path is set once: the
first value stays and later ones are only remarked upon.  Handlers and routes accumulate; all
other options keep their last value.  A call whose argument is refused changes nothing.
-/

namespace SignOut

/-- The options collected so far. -/
structure Options where
  path : Option String
  matcher : Option Matcher
  handlers : List Handler
  routes : List (Matcher × Success)
  fallback : Option Success
  successUrl : Option String
  invalidateSession : Switch
  clearAuthentication : Switch

/-- A service that signs users in from a token they kept.  Its operation to sign out, if it has
one, may be one that cannot be awaited, and a service can withdraw the operation of its kind. -/
inductive RememberMe where
  | only
  | withLogout
  | unawaited (typeName : String := "SyncRememberMe")
  | object
  | withdrawn
  | custom (collaborator : Collaborator)

namespace RememberMe

/-- What a service has under the name of the operation to sign out: no member, a member that is
nothing, or an operation. -/
inductive Member where
  | absent
  | nothing
  | operation (handler : Handler)

/-- The member of a service under the name of the operation to sign out. -/
def member : RememberMe → Member
  | .only => .absent
  | .withLogout => .operation (.one .forgetUser)
  | .unawaited typeName => .operation (.one (.unawaited typeName))
  | .object => .absent
  | .withdrawn => .nothing
  | .custom collaborator => .operation (.one (.custom collaborator))

/-- The handler that a service also is, if it has the operation of one.  A member that is nothing
says that there is no such operation. -/
def handler? (services : RememberMe) : Option Handler :=
  match services.member with
  | .operation handler => some handler
  | _ => none

end RememberMe

namespace Options

/-- The logger of the assembly. -/
def logger : String := "neo_logout.configurers"

/-- No option set. -/
def initial : Options :=
  { path := none, matcher := none, handlers := [], routes := [], fallback := none
    successUrl := none, invalidateSession := .on, clearAuthentication := .on }

/-- A call on the options. -/
inductive Call where
  | setPath (path : Option String)
  | setRequestMatcher (matcher : Matcher)
  | addHandler (handler : Handler)
  | deleteCookies (names : List (Option String))
  | addSessionStore (removal : Option SessionRemoval)
  | invalidateSession (enabled : Switch)
  | clearAuthentication (enabled : Switch)
  | addSuccessRoute (handler : Success) (matcher : Matcher)
  | setDefaultSuccessHandler (handler : Success)
  | setSuccessUrl (url : Option String)

/-- The path in effect. -/
def effectivePath (c : Options) : String :=
  c.path.getD defaultLogoutPath

/-- A path that must be given and start with a slash. -/
def requirePath (path : Option String) : Except InvalidArgument String := do
  let path ← InvalidArgument.require path "path"
  if path.toList.head? = some '/' then return path
  else .error { argument := "path", fault := .relativePath path }

/-- A matcher that must be given and must define the operation. -/
def requireMatcher (matcher : Matcher) : Except InvalidArgument Matcher := do
  let matcher ← Matcher.require matcher "matcher"
  match matcher.foreignType? with
  | none => return matcher
  | some typeName => .error { argument := "matcher", fault := .notAMatcher typeName }

/-- The options with one more handler. -/
def addHandler (c : Options) (handler : Handler) : Except InvalidArgument Options := do
  let handler ← Handler.requireFit handler "handler"
  return { c with handlers := c.handlers ++ [handler] }

/-- The options after a call, or the refusal of its argument. -/
def apply (c : Options) : Call → Except InvalidArgument Options
  | .setPath path => do
      let path ← requirePath path
      return { c with path := some (c.path.getD path) }
  | .setRequestMatcher matcher => do
      return { c with matcher := some (← requireMatcher matcher) }
  | .addHandler handler => addHandler c handler
  | .deleteCookies names => do addHandler c (← Handler.ofCookies names (some "/") none)
  | .addSessionStore removal => do
      let removal ← InvalidArgument.require removal "redis_client"
      addHandler c (← Handler.ofStore true removal)
  | .invalidateSession enabled => return { c with invalidateSession := enabled }
  | .clearAuthentication enabled => return { c with clearAuthentication := enabled }
  | .addSuccessRoute handler matcher => do
      let handler ← Success.requireFit handler "handler"
      let matcher ← requireMatcher matcher
      return { c with routes := c.routes ++ [(matcher, handler)] }
  | .setDefaultSuccessHandler handler => do
      return { c with fallback := some (← Success.requireFit handler "handler") }
  | .setSuccessUrl url => do
      return { c with successUrl := some (← InvalidArgument.require url "url") }

/-- The remark on a path that is set although another one is in effect. -/
def ignoredPath (ignored inEffect : String) : LogRecord :=
  let ignored := Text.quote ignored
  let inEffect := Text.quote inEffect
  { level := .warning, logger
    message := s!"Ignoring logout path {ignored}; already configured as {inEffect}" }

/-- What is remarked upon a call: an accepted path that differs from the one set before. -/
def remarks (c : Options) : Call → List LogRecord
  | .setPath path =>
      match requirePath path, c.path with
      | .ok path, some inEffect =>
          if path = inEffect then [] else [ignoredPath path inEffect]
      | _, _ => []
  | _ => []

/-- A step of a customization: a call, or what kept its arguments from being built. -/
abbrev Step := Except Obstacle Call

/-- The options after a customization, its remarks, and what ended it early. -/
structure Customized where
  options : Options
  records : List LogRecord
  obstacle : Option Obstacle

/-- Make the calls of a customization in order up to the first that is refused or cannot be
built. -/
def customize (c : Options) : List Step → Customized
  | [] => { options := c, records := [], obstacle := none }
  | .error obstacle :: _ => { options := c, records := [], obstacle := some obstacle }
  | .ok call :: rest =>
      match c.apply call with
      | .error refusal =>
          { options := c, records := c.remarks call, obstacle := some (.refused refusal) }
      | .ok next =>
          let after := next.customize rest
          { after with records := c.remarks call ++ after.records }

/-- The collaborators that a snapshot takes from outside the options. -/
structure Surroundings where
  csrfEnabled : Bool
  loginPath : Option String
  repository : Option TokenRepository
  rememberMe : Option RememberMe
  publisher : Option Publisher

/-- Protection on, the default login path and no collaborators. -/
def Surroundings.standard : Surroundings :=
  { csrfEnabled := true, loginPath := some defaultLoginPath, repository := none, rememberMe := none
    publisher := none }

/-- The handler that discards the request-forgery token: present while protection is on and a
repository is known. -/
def tokenHandlers (s : Surroundings) : List Handler :=
  match s.csrfEnabled, s.repository with
  | true, some repository => [.one (.clearToken repository)]
  | _, _ => []

/-- The handler of the remember-me services, if they have the operation of one. -/
def rememberMeHandlers (s : Surroundings) : Except InvalidArgument (List Handler) :=
  match s.rememberMe.bind RememberMe.handler? with
  | none => return []
  | some handler => do return [← Handler.requireFit handler "remember_me_services"]

/-- The handler that publishes the event, if a publisher is known. -/
def eventHandlers (s : Surroundings) : List Handler :=
  match s.publisher with
  | none => []
  | some publisher => [.one (.publishEvent publisher)]

/-- All handlers in the order in which they run: those that were added, the token, the
remember-me services, the session and user, the event. -/
def allHandlers (c : Options) (s : Surroundings) : Except InvalidArgument (List Handler) := do
  let rememberMe ← rememberMeHandlers s
  return c.handlers ++ tokenHandlers s ++ rememberMe ++
    [.one (.clearContext c.invalidateSession c.clearAuthentication)] ++ eventHandlers s

/-- The success handler of requests that no route selects: the one that was set, or else a
redirect to the URL that was set, or else the negotiated answer. -/
def defaultSuccess (c : Options) (s : Surroundings) : Except InvalidArgument Success :=
  match c.fallback, c.successUrl with
  | some handler, _ => return handler
  | none, some url => Success.ofUrl (some url) "target_url"
  | none, none => Success.ofLoginPath s.loginPath

/-- The matcher of the stage: the one that was set, if it counts as true, or else the path and the
allowed methods. -/
def effectiveMatcher (c : Options) (s : Surroundings) : Except InvalidArgument Matcher :=
  match c.matcher.filter Matcher.isTrue with
  | some matcher => return matcher
  | none => Matcher.ofLogout (some c.effectivePath) (allowedMethods s.csrfEnabled)

/-- The parts of a snapshot of the options. -/
def snapshotParts (c : Options) (s : Surroundings) : Except InvalidArgument Configuration := do
  let matcher ← c.effectiveMatcher s
  let handlers ← c.allHandlers s
  let fallback ← c.defaultSuccess s
  return {
    logoutPath := some c.effectivePath
    methods := allowedMethods s.csrfEnabled
    matcher, handlers
    routes := c.routes
    fallback
    loginPath := s.loginPath }

/-- The snapshot of the options. -/
def snapshot (c : Options) (s : Surroundings) : Except SnapshotFault Configuration := do
  let parts ← (c.snapshotParts s).mapError SnapshotFault.argument
  parts.check.mapError SnapshotFault.incomplete

end Options

end SignOut
