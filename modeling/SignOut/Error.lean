import SignOut.Fault
import SignOut.Json
import SignOut.Media.MediaType

/-!
# Errors of assembly

A stage is assembled from arguments that may be missing or unfit.  A refused argument is an
error of its own; when it happens inside a call of the assembly it becomes the cause of a
configuration error.  A fault that stops the building of an argument stays what it is.  Every
error is reported with a code, its message, details and its type.
-/

namespace SignOut

/-- Why an argument is refused. -/
inductive ArgumentFault where
  | missing
  | noMediaTypes
  | malformedMediaType (rejection : MediaType.Rejection)
  | noMatchers
  | emptyCookieName
  | relativePath (path : String)
  | notAHandler (typeName : String)
  | notASuccessHandler (typeName : String)
  | notAMatcher (typeName : String)
  | stated (message : String)
deriving DecidableEq

/-- A refused argument. -/
structure InvalidArgument where
  argument : String
  fault : ArgumentFault
deriving DecidableEq

namespace InvalidArgument

/-- An argument that was not given. -/
def missing (argument : String) : InvalidArgument :=
  { argument, fault := .missing }

/-- A refusal in the words of the caller; without words the argument counts as missing. -/
def stated (argument : String) (message : Option String) : InvalidArgument :=
  match message with
  | none => missing argument
  | some text => if text = "" then missing argument else { argument, fault := .stated text }

/-- The words for a refused argument. -/
def message (e : InvalidArgument) : String :=
  match e.fault with
  | .missing => e.argument ++ " cannot be None"
  | .noMediaTypes => "At least one media type is required"
  | .malformedMediaType rejection => rejection.message
  | .noMatchers => "At least one matcher is required"
  | .emptyCookieName => "Cookie names cannot be empty"
  | .relativePath path => "Logout path must start with '/': " ++ Text.quote path
  | .notAHandler typeName => typeName ++ " must define async logout(request, response, principal)"
  | .notASuccessHandler typeName =>
      typeName ++ " must define async on_logout_success(request, response, principal)"
  | .notAMatcher typeName => typeName ++ " must define matches(request)"
  | .stated text => text

/-- The details of a refused argument: its name. -/
def details (e : InvalidArgument) : Json :=
  .object [("argument", .string e.argument)]

/-- An argument that must be given. -/
def require {α : Type} (value : Option α) (argument : String) : Except InvalidArgument α :=
  match value with
  | some v => .ok v
  | none => .error (missing argument)

end InvalidArgument

/-- What keeps an argument from being built: it is refused, or a fault stops the attempt. -/
inductive Obstacle where
  | refused (e : InvalidArgument)
  | fault (f : Fault)
deriving DecidableEq

/-- A part that a configuration lacks. -/
inductive Incomplete where
  | handler
  | route
  | fallback
deriving DecidableEq, Repr

/-- The words for an incomplete configuration. -/
def Incomplete.message : Incomplete → String
  | .handler => "Logout handlers cannot contain None"
  | .route => "Success routes cannot contain None"
  | .fallback => "Default success handler is required"

/-- Why a snapshot of the options could not be taken. -/
inductive SnapshotFault where
  | argument (e : InvalidArgument)
  | incomplete (e : Incomplete)
deriving DecidableEq

/-- The words for a failed snapshot. -/
def SnapshotFault.message : SnapshotFault → String
  | .argument e => e.message
  | .incomplete e => e.message

/-- The part of the assembly's interface in which an argument was refused. -/
inductive Phase where
  | logout
  | security
deriving DecidableEq, Repr

/-- What the message of a wrapped refusal starts with. -/
def Phase.introduction : Phase → String
  | .logout => "Invalid logout configuration: "
  | .security => "Invalid security configuration: "

/-- A stage that cannot be constructed. -/
inductive ConfigurationError where
  | rejected (phase : Phase) (cause : InvalidArgument)
  | unbuildable (cause : SnapshotFault)
  | notEnabled
  | notAPostProcessor (typeName : String)
  | notAFilter (processor result : String)
  | stated (message : String) (details : Json)

namespace ConfigurationError

/-- The words for a configuration error; those of a wrapped refusal end with its own. -/
def message : ConfigurationError → String
  | .rejected phase cause => phase.introduction ++ cause.message
  | .unbuildable cause => "Failed to build logout configuration: " ++ cause.message
  | .notEnabled => "Logout is not enabled; call logout() before build()"
  | .notAPostProcessor typeName => typeName ++ " does not implement ObjectPostProcessor"
  | .notAFilter processor result =>
      s!"{processor}.post_process returned {result}, not a logout filter"
  | .stated text _ => text

/-- The refused argument that caused an error, if one did. -/
def cause? : ConfigurationError → Option InvalidArgument
  | .rejected _ cause => some cause
  | .unbuildable (.argument cause) => some cause
  | _ => none

/-- The details of a configuration error: those of the refusal that a call of the assembly
wrapped; a failed snapshot states none. -/
def details : ConfigurationError → Json
  | .rejected _ cause => cause.details
  | .stated _ details => if details.isTruthy then details else .object []
  | _ => .object []

end ConfigurationError

/-- Any error of the sign-out stage. -/
inductive LogoutError where
  | general (message : String) (code : Option String) (details : Json)
  | invalid (e : InvalidArgument)
  | configuration (e : ConfigurationError)

/-- The form in which an error is reported. -/
structure Report where
  code : String
  message : String
  details : Json
  type : String

namespace LogoutError

/-- The name of an error's type. -/
def typeName : LogoutError → String
  | .general .. => "NeoLogoutError"
  | .invalid _ => "InvalidLogoutArgument"
  | .configuration _ => "LogoutConfigurationError"

/-- The words for an error. -/
def message : LogoutError → String
  | .general message _ _ => message
  | .invalid e => e.message
  | .configuration e => e.message

/-- The details of an error; an error without details has an empty object. -/
def details : LogoutError → Json
  | .general _ _ details => if details.isTruthy then details else .object []
  | .invalid e => e.details
  | .configuration e => e.details

/-- The code of an error: a general error without a code of its own has its type's name. -/
def code : LogoutError → String
  | .general _ (some code) _ => if code = "" then "NeoLogoutError" else code
  | .general _ none _ => "NeoLogoutError"
  | .invalid _ => "INVALID_LOGOUT_ARGUMENT"
  | .configuration _ => "LOGOUT_CONFIGURATION_ERROR"

/-- Whether an error also counts as an unfit value. -/
def isValueError : LogoutError → Bool
  | .invalid _ => true
  | _ => false

/-- The report of an error. -/
def report (e : LogoutError) : Report :=
  { code := e.code, message := e.message, details := e.details, type := e.typeName }

end LogoutError

end SignOut
