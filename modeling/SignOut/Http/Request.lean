import SignOut.Principal
import SignOut.Text.Case
import SignOut.Text.Latin1
import SignOut.Text.Utf8

/-!
# Requests

A request as the sign-out stage sees it: its path, query and method, its header lines, the
address of the client, and the three places that hold the session and the signed-in user.  Each
of the three may be absent, which differs from being empty.
-/

namespace SignOut

/-- A header line: its name in lower case and its value. -/
abbrev HeaderLine := String × String

/-- A request on its way through the application. -/
structure Request where
  path : String
  method : String
  query : String
  headers : List HeaderLine
  client : Option String
  session : Option (Keyed Json)
  user : Option (Option Principal)
  userContext : Option (Option Principal)

namespace Request

/-- The form of a character in the target of a request: the characters that would end the path
are written by their code. -/
def targetChar (c : Char) : List Char :=
  if c = '?' then ['%', '3', 'F']
  else if c = '#' then ['%', '2', '3']
  else if c = '\\' then ['%', '5', 'C']
  else [c]

/-- The path component of a request's target: it starts with a slash unless it is empty, and
tabs and line ends are dropped wherever they stand. -/
def targetPath (path : List Char) : List Char :=
  let escaped := path.flatMap targetChar
  let rooted :=
    match escaped with
    | [] => []
    | '/' :: rest => '/' :: rest
    | cs => '/' :: cs
  rooted.filter fun c => !(c == '\t' || c == '\r' || c == '\n')

/-- The path by which requests are recognised.  It is taken from the target of the request as a
whole, so it can only be read if the bytes of the query, one per character, are text. -/
def urlPath (r : Request) : Except Text.UndecodableRun String :=
  match Text.undecodableRun? (r.query.toList.map Char.toNat) with
  | some run => .error run
  | none => .ok (String.ofList (targetPath r.path.toList))

/-- A query of ASCII keeps the target readable. -/
theorem urlPath_of_ascii {r : Request} (h : ∀ c ∈ r.query.toList, c.toNat < 0x80) :
    r.urlPath = .ok (String.ofList (targetPath r.path.toList)) := by
  have hquery : Text.undecodableRun? (r.query.toList.map Char.toNat) = none := by
    refine Text.undecodableRun?_ascii _ fun b hb => ?_
    obtain ⟨c, hc, rfl⟩ := List.mem_map.mp hb
    exact h c hc
  unfold urlPath
  rw [hquery]

/-- The method in upper case. -/
def upperMethod (r : Request) : String :=
  Text.upperText r.method

/-- The value of the first header line with a name in lower case. -/
def headerValue? (r : Request) (name : String) : Option String :=
  Keyed.get? name r.headers

/-- The value of the first header line with a name in any case; a name that no header line can
carry is refused. -/
def header? (r : Request) (name : String) : Except Text.UnencodableRun (Option String) :=
  let name := Text.lowerText name
  match Text.unencodableRun? name.toList with
  | some run => .error run
  | none => .ok (r.headerValue? name)

/-- A name that a header line can carry is looked up in lower case. -/
theorem header?_of_isLatin1 {name : String} (h : Text.IsLatin1 (Text.lowerText name).toList)
    (r : Request) : r.header? name = .ok (r.headerValue? (Text.lowerText name)) := by
  unfold header?
  dsimp only
  rw [(Text.unencodableRun?_eq_none_iff _).mpr h]

/-- The values of all header lines with a name. -/
def headerValues (r : Request) (name : String) : List String :=
  (r.headers.filter (·.1 = name)).map (·.2)

/-- Whoever is signed in: the context that the application set, or else an authenticated
user. -/
def principal? (r : Request) : Option Principal :=
  match r.userContext with
  | some (some context) => some context
  | _ =>
      match r.user with
      | some (some user) => if user.isAuthenticated then some user else none
      | _ => none

end Request

end SignOut
