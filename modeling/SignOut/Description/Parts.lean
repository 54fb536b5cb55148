import SignOut.Description.Fields
import SignOut.Stage
import SignOut.Text.Ordered

/-!
# Descriptions of parts

Matchers, handlers, success handlers, configurations and filters as values of the data format:
the name of a part's type and what it was built from.
-/

namespace SignOut

mutual

/-- A matcher: its text, or its name and its parts. -/
def Matcher.describe : Formula Matcher.Atom → Json
  | .atom (.probe name _) => Json.ofTexts ["ProbeMatcher", name]
  | .atom (.custom observer) => Json.ofTexts [observer.typeName]
  | .atom a => .string (a.text?.getD "object")
  | .all parts => .array (.string "AndRequestMatcher" :: Matcher.describeAll parts)
  | .any parts => .array (.string "OrRequestMatcher" :: Matcher.describeAll parts)
  | .negation part => .array [.string "NegatedRequestMatcher", Matcher.describe part]

/-- The parts of a combination. -/
def Matcher.describeAll : List (Formula Matcher.Atom) → List Json
  | [] => []
  | part :: rest => Matcher.describe part :: Matcher.describeAll rest

end

namespace Handler

/-- The name of a single handler's type. -/
def Action.typeName : Action → String
  | .expireCookies .. => "CookieClearingLogoutHandler"
  | .clearContext .. => "SecurityContextLogoutHandler"
  | .removeSession _ => "RedisSessionLogoutHandler"
  | .clearToken _ => "CsrfLogoutHandler"
  | .publishEvent _ => "EventPublishingLogoutHandler"
  | .recording _ => "RecordingLogoutHandler"
  | .failing _ => "FailingLogoutHandler"
  | .forgetUser => "RememberMeWithLogout"
  | .custom collaborator => collaborator.typeName
  | .unawaited typeName => typeName
  | .foreign value => value.typeName

/-- What a single handler was built from. -/
def Action.arguments : Action → List Json
  | .expireCookies names path domain =>
      [Json.ofTexts names, Json.ofText? path, Json.ofText? domain]
  | .clearContext session authentication => [session.describe, authentication.describe]
  | .removeSession s =>
      [Json.ofText? s.keyPrefix, Json.ofText? s.sessionKey, Json.ofText? s.cookieName]
  | .recording h => [.string h.name]
  | _ => []

mutual

/-- A handler: its name, then what it was built from, or the number of its parts and the
parts. -/
def describe : Chain Action → Json
  | .one a => .array (.string a.typeName :: a.arguments)
  | .many parts =>
      .array (.string "CompositeLogoutHandler" :: .int parts.length :: describeAll parts)

/-- The parts of a chain. -/
def describeAll : List (Chain Action) → List Json
  | [] => []
  | part :: rest => describe part :: describeAll rest

end

end Handler

namespace Success

/-- The name of a single success handler's type. -/
def Answer.typeName : Answer → String
  | .redirect _ => "RedirectLogoutSuccessHandler"
  | .status _ => "HttpStatusReturningLogoutSuccessHandler"
  | .negotiating _ => "ContentNegotiatingLogoutSuccessHandler"
  | .recording .. => "RecordingSuccessHandler"
  | .failing _ => "FailingSuccessHandler"
  | .custom collaborator => collaborator.typeName
  | .unawaited typeName => typeName
  | .foreign value => value.typeName

/-- What a single success handler was built from. -/
def Answer.arguments : Answer → List Json
  | .redirect url => [.string url]
  | .status code => [Json.ofInt? code]
  | .negotiating path => [.string path]
  | .recording name _ => [.string name]
  | _ => []

mutual

/-- A success handler: its name, then what it was built from, or its routes and fallback. -/
def describe : Dispatch Matcher Answer → Json
  | .answer a => .array (.string a.typeName :: a.arguments)
  | .routed routes fallback =>
      .array
        [.string "DelegatingLogoutSuccessHandler", .array (describeRoutes routes),
         describe fallback]

/-- Routes: pairs of a matcher and a success handler. -/
def describeRoutes : List (Matcher × Dispatch Matcher Answer) → List Json
  | [] => []
  | (matcher, target) :: rest =>
      .array [Matcher.describe matcher, describe target] :: describeRoutes rest

end

end Success

/-- A configuration with all its parts. -/
def Configuration.describe (c : Configuration) : List (String × Json) :=
  [("logout_path", Json.ofText? c.logoutPath), ("login_path", Json.ofText? c.loginPath),
   ("methods", Json.ofTexts (Text.ordered c.methods)),
   ("matcher", Matcher.describe c.matcher),
   ("handlers", .array (Handler.describeAll c.handlers)),
   ("routes", .array (Success.describeRoutes c.routes)),
   ("default", Success.describe c.fallback)]

/-- A filter: of a stage also its text, its matcher and the number of its handlers. -/
def Filter.describe (f : Filter) : List (String × Json) :=
  let more :=
    match f with
    | .stage s =>
        [("repr", Json.ofText? s.text?), ("matcher", Matcher.describe s.configuration.matcher),
         ("handlers", .int s.configuration.handlers.length)]
    | .decorated _ => []
    | .substitute _ => []
  ("type", .string f.typeName) :: more

end SignOut
