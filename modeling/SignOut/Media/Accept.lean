import SignOut.Media.MediaType
import SignOut.Numeric.Reading

/-!
# The Accept header

An Accept header is a list of pieces between commas.  A well-formed piece declares one media
type; any other piece is skipped and affects no other piece.  The position of a piece, blank
and malformed pieces included, is the order of its media type.
-/

namespace SignOut.Accept

open Numeric Text

/-- A parameter of a piece: its name in lower case and its value without the quotes around
it. -/
def parameter (part : List Char) : List Char × List Char :=
  let (name, value) := cut '=' part
  (lower (strip name), trimBy (· == '"') (strip (value.getD [])))

/-- The parameters of a piece, blank parts left out. -/
def parameters (parts : List (List Char)) : List (List Char × List Char) :=
  (parts.filter (· ≠ [])).map parameter

/-- The name of the parameter that states the quality. -/
def qualityName : List Char := ['q']

/-- A stated quality: the text of any number. -/
def statedQuality? (value : List Char) : Option Binary64 :=
  match Binary64.ofText? value with
  | some .nan => none
  | stated => stated

/-- The quality that parameters state: every stated one must be a number, the last one counts,
and none means one. -/
def quality? (parameters : List (List Char × List Char)) : Option Binary64 := do
  let stated ← (parameters.filter (·.1 = qualityName)).mapM fun p => statedQuality? p.2
  return stated.getLast?.getD .one

/-- The parameters that do not state a quality, each name with its last value. -/
def furtherParameters (parameters : List (List Char × List Char)) : Keyed String :=
  Keyed.ofEntries
    ((parameters.filter (·.1 ≠ qualityName)).map fun p => (String.ofList p.1, String.ofList p.2))

/-- A lone wildcard stands for the full one. -/
def expandWildcard (essence : List Char) : List Char :=
  if essence = ['*'] then ['*', '/', '*'] else essence

/-- The media type that a piece declares at a position, if the piece is well-formed. -/
def declaration? (position : Nat) (piece : List Char) : Option MediaType :=
  match (fields ';' (strip piece)).map strip with
  | [] => none
  | essence :: parts =>
      match fields '/' (expandWildcard essence) with
      | [type, subtype] => do
          let declared := parameters parts
          let quality ← quality? declared
          (MediaType.ofParts (String.ofList type) (String.ofList subtype) quality position
            (furtherParameters declared)).toOption
      | _ => none

/-- The media types of the pieces from a position on. -/
def entriesFrom (position : Nat) : List (List Char) → List MediaType
  | [] => []
  | piece :: rest => (declaration? position piece).toList ++ entriesFrom (position + 1) rest

/-- The media types that a header declares, in the order of their pieces. -/
def parse (header : Option String) : List MediaType :=
  match header with
  | none => []
  | some text => entriesFrom 0 (fields ',' text.toList)

/-- The media types of a header with a positive quality, the preferred ones first. -/
def acceptable (header : Option String) : List MediaType :=
  ((parse header).filter (·.quality.isPositive)).mergeSort MediaType.ranksBefore

end SignOut.Accept

namespace SignOut.MediaType

/-- The media type that a text consists of: it declares exactly one. -/
def ofText (text : Option String) : Except Rejection MediaType :=
  match Accept.parse text with
  | [m] => .ok m
  | _ => .error (.notSingle text)

end SignOut.MediaType
