import SignOut.Configuration
import SignOut.Json.Reader
import SignOut.Settings.EnvironmentFile
import SignOut.Settings.Problem

/-!
# Settings

The sign-out can be set up by explicit arguments, by variables of the environment and by a file
of variables.  Arguments win over the environment, the environment wins over the file, and what
nobody gives has a default.  The names of variables are read in any case.
-/

namespace SignOut

/-- The settings of the sign-out. -/
structure Settings where
  logoutPath : String
  loginPath : String
  csrfEnabled : Bool
  invalidateSession : Bool
  clearAuthentication : Bool
  deleteCookies : List String
  sessionKeyPrefix : String
deriving DecidableEq, Repr

namespace Settings

/-- The fields of the settings. -/
inductive Field where
  | logoutPath
  | loginPath
  | csrfEnabled
  | invalidateSession
  | clearAuthentication
  | deleteCookies
  | sessionKeyPrefix
deriving DecidableEq, Repr

/-- The name of a field. -/
def Field.name : Field → String
  | logoutPath => "logout_path"
  | loginPath => "login_path"
  | csrfEnabled => "csrf_enabled"
  | invalidateSession => "invalidate_session"
  | clearAuthentication => "clear_authentication"
  | deleteCookies => "delete_cookies"
  | sessionKeyPrefix => "session_key_prefix"

/-- The name of a field's variable, in lower case. -/
def Field.variableName (field : Field) : String :=
  "neo_logout_" ++ field.name

/-- The settings when nothing is given. -/
def standard : Settings :=
  { logoutPath := defaultLogoutPath, loginPath := defaultLoginPath, csrfEnabled := true
    invalidateSession := true, clearAuthentication := true, deleteCookies := []
    sessionKeyPrefix := "auth_session" }

/-- The settings as a value of the data format. -/
def toJson (s : Settings) : Json :=
  .object
    [(Field.logoutPath.name, .string s.logoutPath), (Field.loginPath.name, .string s.loginPath),
     (Field.csrfEnabled.name, .bool s.csrfEnabled),
     (Field.invalidateSession.name, .bool s.invalidateSession),
     (Field.clearAuthentication.name, .bool s.clearAuthentication),
     (Field.deleteCookies.name, Json.ofTexts s.deleteCookies),
     (Field.sessionKeyPrefix.name, .string s.sessionKeyPrefix)]

/-- Variables by their names in lower case; of two names that differ in case the later one
counts. -/
def byLowerName (entries : List (String × Option String)) : Keyed (Option String) :=
  Keyed.ofEntries (entries.map fun entry => (Text.lowerText entry.1, entry.2))

/-- Where variables come from. -/
inductive Source where
  | environment
  | file
deriving DecidableEq, Repr

/-- The name under which a source is reported. -/
def Source.label : Source → String
  | environment => "EnvSettingsSource"
  | file => "DotEnvSettingsSource"

/-- Why settings could not be loaded. -/
inductive LoadError where
  | unreadable (source : Source)
  | tooDeep (container : Json.Container)
  | invalid (problems : List Problem)

/-- The words for a source whose list of cookies cannot be read. -/
def Source.unreadableMessage (source : Source) : String :=
  let field := Field.deleteCookies.name
  s!"error parsing value for field \"{field}\" from source \"{source.label}\""

/-- The words for a list of cookies whose parts lie too deep. -/
def tooDeepMessage (container : Json.Container) : String :=
  s!"maximum recursion depth exceeded while decoding a JSON {container.name} from a unicode string"

/-- The values given for the fields. -/
abbrev Values := Field → Option Json

/-- The text of a field's variable. -/
def textValue? (table : Keyed (Option String)) (field : Field) : Option String :=
  (Keyed.get? field.variableName table).join

/-- The list of cookies that a text holds in the data format; the word for nothing gives no
list. -/
def cookiesValue (source : Source) (text : Option String) : Except LoadError (Option Json) :=
  match text with
  | none => .ok none
  | some text =>
      match Json.parse text.toList with
      | .error .malformed => .error (.unreadable source)
      | .error (.tooDeep container) => .error (.tooDeep container)
      | .ok .null => .ok none
      | .ok value => .ok (some value)

/-- The values of a source's variables. -/
def sourceValues (source : Source) (table : Keyed (Option String)) :
    Except LoadError Values := do
  let cookies ← cookiesValue source (textValue? table .deleteCookies)
  return fun field =>
    match field with
    | .deleteCookies => cookies
    | field => (textValue? table field).map Json.string

/-- The value given for a field, read, or else its default. -/
def fieldOr {α : Type} (values : Values) (field : Field) (default : α)
    (read : List String → Json → Checked α) : Checked α :=
  match values field with
  | none => .ok default
  | some value => read [field.name] value

/-- The settings that values describe; the problems of all fields are reported in order. -/
def ofValues (values : Values) : Checked Settings :=
  let logoutPath := fieldOr values .logoutPath standard.logoutPath Checked.path
  let loginPath := fieldOr values .loginPath standard.loginPath Checked.path
  let csrf := fieldOr values .csrfEnabled standard.csrfEnabled Checked.switch
  let session := fieldOr values .invalidateSession standard.invalidateSession Checked.switch
  let user := fieldOr values .clearAuthentication standard.clearAuthentication Checked.switch
  let cookies := fieldOr values .deleteCookies standard.deleteCookies Checked.texts
  let keyPrefix := fieldOr values .sessionKeyPrefix standard.sessionKeyPrefix Checked.text
  let paths := Checked.give (Checked.give (.ok Settings.mk) logoutPath) loginPath
  let switches := Checked.give (Checked.give (Checked.give paths csrf) session) user
  Checked.give (Checked.give switches cookies) keyPrefix

/-- Load the settings from arguments, the environment and the text of a file. -/
def load (arguments : Keyed Json) (environment : Keyed String) (file : String) :
    Except LoadError Settings := do
  let fromEnvironment ←
    sourceValues .environment (byLowerName (environment.map fun entry => (entry.1, some entry.2)))
  let fromFile ← sourceValues .file (byLowerName (EnvironmentFile.values environment file))
  let values : Values := fun field =>
    Keyed.get? field.name arguments <|> fromEnvironment field <|> fromFile field
  (ofValues values).mapError LoadError.invalid

end Settings

end SignOut
