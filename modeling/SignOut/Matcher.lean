import SignOut.Collaborator
import SignOut.Error
import SignOut.Formula
import SignOut.Media.Accept
import SignOut.Switch
import SignOut.Text.Ordered

/-!
# Request matchers

A matcher selects requests: by path and method, by a header, by the media types that the client
accepts, or by a boolean combination of other matchers.  Values that are no matchers may stand
in the place of one; asking such a value is a fault.
-/

namespace SignOut

/-- A matcher for the media types that a client accepts. -/
structure MediaMatcher where
  types : List MediaType
  exact : Switch
  ignored : List MediaType

namespace MediaMatcher

/-- The acceptable types of a header; without any, everything is acceptable. -/
def accepted (accept : Option String) : List MediaType :=
  match (Accept.parse accept).filter (·.quality.isPositive) with
  | [] => [MediaType.all]
  | types => types

/-- An accepted type is disregarded. -/
def ignores (m : MediaMatcher) (accepted : MediaType) : Bool :=
  m.ignored.any fun ignored => accepted.essence == ignored.essence

/-- An accepted type fits a configured one: it is the same, or one of the two covers the other,
as the matcher was told to compare. -/
def fits (m : MediaMatcher) (accepted candidate : MediaType) : Bool :=
  if m.exact.isOn then accepted.essence == candidate.essence
  else candidate.isCompatibleWith accepted

/-- Look through accepted types: those to be disregarded are passed over, and the first that fits
a configured one ends the search. -/
def scan (m : MediaMatcher) : List MediaType → Bool
  | [] => false
  | accepted :: rest =>
      if m.ignores accepted then m.scan rest
      else if m.types.any (m.fits accepted) then true
      else m.scan rest

/-- One of the types that a header accepts is selected; the preferred ones are tried first. -/
def matchesAccept (m : MediaMatcher) (accept : Option String) : Bool :=
  m.scan ((accepted accept).mergeSort MediaType.ranksBefore)

end MediaMatcher

/-- A matcher that is no combination. -/
inductive Matcher.Atom where
  | logout (target : String) (methods : List String)
  | path (target : String) (method : Option String)
  | everything
  | header (name : String) (value : Option String)
  | media (matcher : MediaMatcher)
  | probe (name : String) (answer : Except String Bool)
  | custom (observer : Observer)
  | foreign (value : Foreign)

/-- A matcher: a combination of simple ones. -/
abbrev Matcher := Formula Matcher.Atom

namespace Matcher

/-- Ask a simple matcher about the request. -/
def Atom.ask : Atom → Run Bool
  | .logout target methods => do
      let path ← Run.urlPath
      return path == target && (← Run.request).upperMethod ∈ methods
  | .path target none => do return (← Run.urlPath) == target
  | .path target (some method) => do
      if (← Run.request).upperMethod = method then return (← Run.urlPath) == target
      else return false
  | .everything => return true
  | .header name value => do
      match ← Run.header? name, value with
      | none, _ => return false
      | some _, none => return true
      | some actual, some expected => return actual == expected
  | .media matcher => do return matcher.matchesAccept (← Run.header? "accept")
  | .probe name answer => do
      Run.record (.probed name)
      match answer with
      | .ok result => return result
      | .error message => Run.stop (.raised message)
  | .custom observer => observer.ask
  | .foreign value => Run.stop (.lacks value.typeName "matches")

/-- Ask a matcher about the request. -/
def ask (matcher : Matcher) : Run Bool :=
  matcher.eval Atom.ask

/-- No value at all stands in the matcher's place. -/
def isNothing : Matcher → Bool
  | .atom (.foreign .nothing) => true
  | _ => false

/-- The type of the value in the matcher's place, where it is no matcher. -/
def foreignType? : Matcher → Option String
  | .atom (.foreign value) => some value.typeName
  | _ => none

/-- Whether a matcher counts as true where a truth value is asked of it.  All matchers of the stage
itself do. -/
def isTrue : Matcher → Bool
  | .atom (.custom observer) => observer.isTrue
  | .atom (.foreign value) => value.isTrue
  | _ => true

/-- A matcher that must be given. -/
def require (matcher : Matcher) (argument : String) : Except InvalidArgument Matcher :=
  if matcher.isNothing then .error (.missing argument) else .ok matcher

/-- The matcher of a sign-out path for a set of methods. -/
def ofLogout (path : Option String) (methods : List String) : Except InvalidArgument Matcher := do
  let path ← InvalidArgument.require path "path"
  return .atom (.logout path (Text.ordered (methods.map Text.upperText)))

/-- The matcher of an exact path, for one method if a non-empty one is given. -/
def ofPath (path method : Option String) : Except InvalidArgument Matcher := do
  let path ← InvalidArgument.require path "path"
  return .atom (.path path ((method.filter (· ≠ "")).map Text.upperText))

/-- The matcher of a header, with an exact value if one is given. -/
def ofHeader (name value : Option String) : Except InvalidArgument Matcher := do
  return .atom (.header (← InvalidArgument.require name "name") value)

/-- The media types that texts name; each text must be given and name exactly one. -/
def mediaTypes (texts : List (Option String)) : Except InvalidArgument (List MediaType) :=
  (texts.mapM MediaType.ofText).mapError fun rejection =>
    { argument := "media_types", fault := .malformedMediaType rejection }

/-- The matcher of accepted media types. -/
def ofMedia (types : List (Option String)) (exact : Switch) (ignored : List (Option String)) :
    Except InvalidArgument Matcher := do
  if types = [] then .error { argument := "media_types", fault := .noMediaTypes }
  else
    let types ← mediaTypes types
    let ignored ← mediaTypes ignored
    return .atom (.media { types, exact, ignored })

/-- The parts of a combination: at least one, and every one given. -/
def parts (matchers : List Matcher) : Except InvalidArgument (List Matcher) :=
  if matchers.isEmpty then .error { argument := "matchers", fault := .noMatchers }
  else matchers.mapM fun matcher => require matcher "matcher"

/-- The matcher that selects what all its parts select. -/
def conjunction (matchers : List Matcher) : Except InvalidArgument Matcher := do
  return .all (← parts matchers)

/-- The matcher that selects what one of its parts selects. -/
def disjunction (matchers : List Matcher) : Except InvalidArgument Matcher := do
  return .any (← parts matchers)

/-- The matcher that selects what another one does not. -/
def complement (matcher : Matcher) : Except InvalidArgument Matcher := do
  return .negation (← require matcher "matcher")

/-- A text or nothing, as it is written in the text of a matcher. -/
def optionText : Option String → String
  | none => "None"
  | some s => Text.quote s

/-- The text of a simple matcher, where it has one. -/
def Atom.text? : Atom → Option String
  | .logout target methods =>
      some s!"LogoutRequestMatcher(path={Text.quote target}, methods={Text.quoteList methods})"
  | .path target method =>
      some s!"PathRequestMatcher(path={Text.quote target}, method={optionText method})"
  | .everything => some "AnyRequestMatcher()"
  | .header name value =>
      some s!"HeaderRequestMatcher(name={Text.quote name}, value={optionText value})"
  | .media matcher =>
      let types := ", ".intercalate (matcher.types.map MediaType.essence)
      some s!"MediaTypeRequestMatcher({types}, use_equals={matcher.exact.word})"
  | .foreign .nothing => some "None"
  | .foreign (.text s) => some (Text.quote s)
  | .foreign .object => none
  | .probe _ _ => none
  | .custom _ => none

/-- The text of a matcher; combinations have none. -/
def text? : Matcher → Option String
  | .atom a => a.text?
  | _ => none

end Matcher

end SignOut
