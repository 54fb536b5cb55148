import SignOut.Json
import SignOut.Negotiation

/-!
# Descriptions of media types

A media type as a value of the data format, with everything that is derived from it.  The
quality is given by its bits.
-/

namespace SignOut

/-- The name of an outcome. -/
def Outcome.label : Outcome → String
  | redirect => "redirect"
  | noContent => "no_content"

namespace MediaType

/-- A media type with what is derived from it. -/
def describe (m : MediaType) : Json :=
  .object
    [("type", .string m.type), ("subtype", .string m.subtype),
     ("quality", .string m.quality.value.toHex), ("order", .int m.order),
     ("parameters", .object (m.parameters.map fun entry => (entry.1, .string entry.2))),
     ("essence", .string m.essence), ("specificity", .int m.specificity),
     ("wildcard_type", .bool m.isWildcardType), ("wildcard_subtype", .bool m.isWildcardSubtype),
     ("suffix", Json.ofText? m.suffix?), ("str", .string m.toText)]

/-- The position of a media type in a list of preferences. -/
def describeRank (m : MediaType) : Json :=
  .array [.string m.essence, .string m.quality.value.toHex, .int m.order]

/-- How a media type counts in the negotiation. -/
def describeClass (m : MediaType) : Json :=
  .object
    [("html", .bool (Negotiation.isHtmlCompatible m)),
     ("structured", .bool (Negotiation.isStructured m)),
     ("outcome", .string (Negotiation.outcomeFor m).label)]

/-- The sign of a comparison. -/
def sign : Ordering → Int
  | .lt => -1
  | .eq => 0
  | .gt => 1

/-- How two media types relate to each other. -/
def describePair (a b : MediaType) : Json :=
  .object
    [("a_includes_b", .bool (a.includes b)), ("b_includes_a", .bool (b.includes a)),
     ("a_compatible_b", .bool (a.isCompatibleWith b)),
     ("b_compatible_a", .bool (b.isCompatibleWith a)), ("equal", .bool (a.agreesWith b)),
     ("sort", .int (sign (a.compareKey b)))]

end MediaType

end SignOut
