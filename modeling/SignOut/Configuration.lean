import SignOut.Success

/-!
# Configurations

A configuration is the snapshot of everything that the stage needs while requests are served.
While request-forgery protection is on, only the method that links cannot use triggers a
sign-out.
-/

namespace SignOut

/-- The sign-out path used unless another one is set. -/
def defaultLogoutPath : String := "/logout"

/-- The login path used unless another one is set. -/
def defaultLoginPath : String := "/login"

/-- The methods that trigger a sign-out, in order. -/
def allowedMethods (csrfEnabled : Bool) : List String :=
  if csrfEnabled then ["POST"] else ["DELETE", "GET", "POST", "PUT"]

/-- The snapshot from which a stage is built. -/
structure Configuration where
  logoutPath : Option String
  methods : List String
  matcher : Matcher
  handlers : List Handler
  routes : List (Matcher × Success)
  fallback : Success
  loginPath : Option String

namespace Configuration

/-- A part of a route is missing. -/
def lacksPart (route : Matcher × Success) : Bool :=
  route.1.isNothing || route.2.isNothing

/-- A configuration whose handlers, routes and fallback are all given, or the first that is
not. -/
def check (c : Configuration) : Except Incomplete Configuration :=
  if c.handlers.any Handler.isNothing then .error .handler
  else if c.routes.any lacksPart then .error .route
  else if c.fallback.isNothing then .error .fallback
  else .ok c

end Configuration

end SignOut
