import SignOut.Keyed
import SignOut.Numeric.Shortest
import SignOut.Text.Blank
import SignOut.Text.Case
import SignOut.Text.Fields
import SignOut.Text.Quoted

/-!
# Media types

A media type as a client declares it: a type and a subtype in lower case, either of which may
be the wildcard, a quality between zero and one, its position among the declared entries, and
further parameters.  Only the full wildcard has a wildcard type.  This module holds the type,
its ordering key and the relation of covering; choosing an answer is not done here.
-/

namespace SignOut

open Numeric

/-- A quality: a number between zero and one. -/
structure Quality where
  value : Binary64
  nonneg : (Binary64.finite false 0).le value = true
  le_one : value.le Binary64.one = true
deriving DecidableEq

namespace Quality

/-- The quality of an entry that states none. -/
def full : Quality := ⟨Binary64.one, by decide +kernel, by decide +kernel⟩

/-- A number as a quality, if it lies between zero and one. -/
def ofNumber? (x : Binary64) : Option Quality :=
  if h : (Binary64.finite false 0).le x = true ∧ x.le Binary64.one = true then
    some ⟨x, h.1, h.2⟩
  else none

/-- The size of a quality as an exact count; the two zeros have one size. -/
def size (q : Quality) : Int :=
  q.value.toUnits?.getD 0

/-- A quality that makes its entry acceptable. -/
def isPositive (q : Quality) : Bool :=
  0 < q.size

/-- A quality is a finite number, and one with the sign is zero. -/
theorem exists_finite (q : Quality) :
    ∃ negative units, q.value = .finite negative units ∧ (negative = true → units = 0) := by
  have hnonneg := q.nonneg
  have hle := q.le_one
  cases hvalue : q.value with
  | nan =>
      rw [hvalue] at hnonneg
      cases hnonneg
  | infinite negative =>
      rw [hvalue] at hnonneg hle
      cases negative with
      | true => cases hnonneg
      | false => cases hle
  | finite negative units =>
      refine ⟨negative, units, rfl, ?_⟩
      rintro rfl
      rw [hvalue] at hnonneg
      have hsigned : (0 : Int) ≤ -(units : Int) := of_decide_eq_true hnonneg
      omega

/-- Sizes compare like the numbers. -/
theorem le_value_iff {a b : Quality} : a.value.le b.value = true ↔ a.size ≤ b.size := by
  obtain ⟨n, u, ha, -⟩ := a.exists_finite
  obtain ⟨m, v, hb, -⟩ := b.exists_finite
  unfold size
  rw [ha, hb]
  exact decide_eq_true_iff

theorem eq_of_value_eq {a b : Quality} (h : a.value = b.value) : a = b := by
  cases a
  cases b
  cases h
  rfl

/-- Only the two zeros share their size. -/
theorem eq_of_size_eq {a b : Quality} (hpos : 0 < a.size) (h : a.size = b.size) : a = b := by
  have hvalue : ∀ q : Quality, 0 < q.size → q.value = .finite false q.size.toNat := by
    intro q hq
    obtain ⟨negative, units, heq, hzero⟩ := q.exists_finite
    unfold size at hq ⊢
    rw [heq] at hq ⊢
    cases negative with
    | true =>
        rw [hzero rfl] at hq
        cases hq
    | false => rfl
  refine eq_of_value_eq ?_
  rw [hvalue a hpos, hvalue b (h ▸ hpos), h]

end Quality

/-- A media type with the quality, position and parameters of its declaration. -/
structure MediaType where
  type : String
  subtype : String
  quality : Quality
  order : Int
  parameters : Keyed String
  type_ne : type ≠ ""
  subtype_ne : subtype ≠ ""
  wildcard : type = "*" → subtype = "*"
deriving DecidableEq

namespace MediaType

/-- Why a text or its parts are no media type. -/
inductive Rejection where
  | emptyName
  | wildcardType (subtype : String)
  | qualityOutOfRange (quality : Binary64)
  | notSingle (text : Option String)
deriving DecidableEq

/-- The words for a rejection. -/
def Rejection.message : Rejection → String
  | .emptyName => "Media type and subtype cannot be empty"
  | .wildcardType subtype => s!"Invalid wildcard media type: */{subtype}"
  | .qualityOutOfRange quality => s!"Quality value out of range: {quality.shortestText}"
  | .notSingle none => "Invalid media type: None"
  | .notSingle (some text) => s!"Invalid media type: {Text.quote text}"

/-- A type or subtype without surrounding blanks and in lower case. -/
def normalName (s : String) : String :=
  String.ofList (Text.lower (Text.strip s.toList))

/-- The media type with the given parts, or the first reason why they form none. -/
def ofParts (type subtype : String) (quality : Binary64) (order : Int)
    (parameters : Keyed String) : Except Rejection MediaType :=
  let type := normalName type
  let subtype := normalName subtype
  if hEmpty : type = "" ∨ subtype = "" then .error .emptyName
  else if hWildcard : type = "*" ∧ subtype ≠ "*" then .error (.wildcardType subtype)
  else
    match Quality.ofNumber? quality with
    | none => .error (.qualityOutOfRange quality)
    | some quality =>
        .ok
          { type, subtype, quality, order, parameters
            type_ne := fun h => hEmpty (.inl h)
            subtype_ne := fun h => hEmpty (.inr h)
            wildcard := fun h => Decidable.byContradiction fun hs => hWildcard ⟨h, hs⟩ }

/-- Type and subtype without quality and parameters. -/
def essence (m : MediaType) : String :=
  m.type ++ "/" ++ m.subtype

/-- The type is the wildcard. -/
def isWildcardType (m : MediaType) : Bool :=
  m.type == "*"

/-- The subtype is the wildcard. -/
def isWildcardSubtype (m : MediaType) : Bool :=
  m.subtype == "*"

/-- Zero for a concrete type, one for a wildcard subtype, two for the full wildcard. -/
def specificity (m : MediaType) : Nat :=
  if m.isWildcardType then 2 else if m.isWildcardSubtype then 1 else 0

/-- The part of the subtype after its last plus sign, if it has one. -/
def suffix? (m : MediaType) : Option String :=
  (Text.afterLast? '+' m.subtype.toList).map String.ofList

/-- The order of preference: higher quality, then the more specific type, then the earlier
declaration. -/
def compareKey (a b : MediaType) : Ordering :=
  (compare b.quality.size a.quality.size).then
    ((compare a.specificity b.specificity).then (compare a.order b.order))

/-- The first media type is preferred to the second or ranks with it. -/
def ranksBefore (a b : MediaType) : Bool :=
  (compareKey a b).isLE

/-- Every concrete type that the second covers is covered by the first. -/
def includes (a b : MediaType) : Bool :=
  a.isWildcardType || (a.type == b.type && (a.isWildcardSubtype || a.subtype == b.subtype))

/-- One of the two covers the other. -/
def isCompatibleWith (a b : MediaType) : Bool :=
  a.includes b || b.includes a

/-- The same type, quality and position; parameters do not count. -/
def agreesWith (a b : MediaType) : Bool :=
  a.type == b.type && a.subtype == b.subtype && a.quality.size == b.quality.size &&
    a.order == b.order

/-- The essence, followed by the quality where it is below one. -/
def toText (m : MediaType) : String :=
  if m.quality.size < Quality.full.size then
    s!"{m.essence};q={m.quality.value.significantText}"
  else m.essence

/-- A media type with the given names, full quality and the first position. -/
def plain (type subtype : String) (type_ne : type ≠ "") (subtype_ne : subtype ≠ "")
    (wildcard : type = "*" → subtype = "*") : MediaType :=
  { type, subtype, quality := .full, order := 0, parameters := [], type_ne, subtype_ne, wildcard }

/-- The full wildcard. -/
def all : MediaType := plain "*" "*" (by decide) (by decide) (by decide)

/-- The type of web pages. -/
def textHtml : MediaType := plain "text" "html" (by decide) (by decide) (by decide)

/-- The type of web pages written in XML. -/
def applicationXhtml : MediaType :=
  plain "application" "xhtml+xml" (by decide) (by decide) (by decide)

/-- The type of JSON documents. -/
def applicationJson : MediaType := plain "application" "json" (by decide) (by decide) (by decide)

/-- Parts form the media type that has them, if there is one. -/
theorem ofParts_eq_ok_iff {type subtype : String} {quality : Binary64} {order : Int}
    {parameters : Keyed String} {m : MediaType} :
    ofParts type subtype quality order parameters = .ok m ↔
      m.type = normalName type ∧ m.subtype = normalName subtype ∧ m.quality.value = quality ∧
        m.order = order ∧ m.parameters = parameters := by
  constructor
  · intro h
    unfold ofParts at h
    by_cases hempty : normalName type = "" ∨ normalName subtype = ""
    · rw [dif_pos hempty] at h
      cases h
    by_cases hwildcard : normalName type = "*" ∧ normalName subtype ≠ "*"
    · rw [dif_neg hempty, dif_pos hwildcard] at h
      cases h
    rw [dif_neg hempty, dif_neg hwildcard] at h
    by_cases hquality : (Binary64.finite false 0).le quality = true ∧ quality.le .one = true
    · rw [show Quality.ofNumber? quality = some ⟨quality, hquality.1, hquality.2⟩ from
        dif_pos hquality] at h
      rw [← Except.ok.inj h]
      exact ⟨rfl, rfl, rfl, rfl, rfl⟩
    · rw [show Quality.ofNumber? quality = none from dif_neg hquality] at h
      cases h
  · rintro ⟨htype, hsubtype, rfl, rfl, rfl⟩
    have hempty : ¬ (normalName type = "" ∨ normalName subtype = "") := by
      rw [← htype, ← hsubtype]
      exact not_or.mpr ⟨m.type_ne, m.subtype_ne⟩
    have hwildcard : ¬ (normalName type = "*" ∧ normalName subtype ≠ "*") := by
      rw [← htype, ← hsubtype]
      exact fun h => h.2 (m.wildcard h.1)
    have hquality : Quality.ofNumber? m.quality.value = some m.quality :=
      dif_pos ⟨m.quality.nonneg, m.quality.le_one⟩
    unfold ofParts
    rw [dif_neg hempty, dif_neg hwildcard, hquality]
    obtain ⟨lowerType, lowerSubtype, _, _, _, _, _, _⟩ := m
    obtain rfl : lowerType = normalName type := htype
    obtain rfl : lowerSubtype = normalName subtype := hsubtype
    rfl

end MediaType

end SignOut
