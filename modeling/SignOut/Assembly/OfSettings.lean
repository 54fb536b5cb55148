import SignOut.Assembly
import SignOut.Settings

/-!
# Assemblies from settings

Settings are a short way of making calls on a fresh assembly.  A path equal to the default is not
set, so that a later call can still set one.
-/

namespace SignOut

namespace Settings

/-- The removal of the stored session under the prefix of the settings. -/
def sessionRemoval (s : Settings) : SessionRemoval :=
  { SessionRemoval.standard with keyPrefix := some s.sessionKeyPrefix }

/-- The calls on the options that settings stand for; `store` says whether there is a session
store. -/
def optionCalls (s : Settings) (store : Bool) : List Options.Call :=
  (if s.logoutPath = defaultLogoutPath then [] else [.setPath (some s.logoutPath)]) ++
    [.invalidateSession (.ofBool s.invalidateSession),
      .clearAuthentication (.ofBool s.clearAuthentication)] ++
    (if s.deleteCookies.isEmpty then [] else [.deleteCookies (s.deleteCookies.map some)]) ++
    (if store then [.addSessionStore (some s.sessionRemoval)] else [])

/-- The calls on an assembly that settings stand for. -/
def assemblyCalls (s : Settings) (store : Bool) : List Assembly.Call :=
  [.csrf s.csrfEnabled none, .loginPath (some s.loginPath),
   .logout ((s.optionCalls store).map Except.ok)]

end Settings

namespace Assembly

/-- The assembly that settings describe, or the error of the first call that fails. -/
def ofSettings (s : Settings) (store : Bool) : Called :=
  initial.applyUntilError (s.assemblyCalls store)

end Assembly

end SignOut
