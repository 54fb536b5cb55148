import SignOut.Media.Accept

/-!
# Negotiation of the answer

A browser that followed a link or sent a form is redirected to the login page; a client driven
by a script gets an empty answer.  The choice is a function of two request headers: a marker of
script-driven requests decides at once, otherwise the preferred media type of the Accept header
does, and a header without acceptable types counts as browser navigation.
-/

namespace SignOut

/-- The two answers to a completed logout. -/
inductive Outcome where
  | redirect
  | noContent
deriving DecidableEq, Repr

namespace Negotiation

/-- The essences of web pages. -/
def htmlEssences : List String :=
  [MediaType.textHtml.essence, MediaType.applicationXhtml.essence]

/-- The essences of structured data. -/
def structuredEssences : List String :=
  [MediaType.applicationJson.essence, "application/xml", "text/xml", "application/atom+xml",
   "application/x-www-form-urlencoded", "application/octet-stream", "multipart/form-data"]

/-- The suffixes of subtypes that build on a structured format. -/
def structuredSuffixes : List String := ["json", "xml"]

/-- A web page satisfies the media type. -/
def isHtmlCompatible (m : MediaType) : Bool :=
  m.essence ∈ htmlEssences || (m.type == "text" && m.isWildcardSubtype)

/-- The media type asks for structured data. -/
def isStructured (m : MediaType) : Bool :=
  m.essence ∈ structuredEssences ||
    (match m.suffix? with
      | some suffix => suffix ∈ structuredSuffixes
      | none => false) ||
    (m.type == "application" && m.isWildcardSubtype)

/-- The answer for the preferred media type. -/
def outcomeFor (m : MediaType) : Outcome :=
  if isHtmlCompatible m then .redirect
  else if m.isWildcardType then .noContent
  else if isStructured m then .noContent
  else .redirect

/-- The header value marks a script-driven request. -/
def isScripted (requestedWith : Option String) : Bool :=
  match requestedWith with
  | none => false
  | some value => Text.lower (Text.strip value.toList) = "xmlhttprequest".toList

/-- The answer that the two headers ask for. -/
def outcome (accept requestedWith : Option String) : Outcome :=
  if isScripted requestedWith then .noContent
  else
    match Accept.acceptable accept with
    | [] => .redirect
    | preferred :: _ => outcomeFor preferred

end Negotiation

end SignOut
