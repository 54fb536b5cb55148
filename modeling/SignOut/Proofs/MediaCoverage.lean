import Mathlib.Data.Set.Insert
import SignOut.Proofs.MediaSelection

/-!
# What a media type covers

A media type stands for a set of concrete pairs of a type and a subtype: the full wildcard for all
of them, a wildcard subtype for those with its type, and any other media type for its own pair.  The
comparison of names is exact for these sets.  One media type includes another if and only if its set
contains the set of the other, and two are compatible if and only if their sets meet.

The comparison misses nothing because a single pair decides about inclusion.  It is the pair of the
included type, in which names that the including type does not have stand in for the wildcards.
-/

namespace SignOut

open Numeric

namespace MediaType

variable {a b c : MediaType}

/-! ## Concrete pairs -/

/-- A type and a subtype of which neither is the wildcard. -/
structure Concrete (pair : String × String) : Prop where
  type : pair.1 ≠ "*"
  subtype : pair.2 ≠ "*"

/-- The concrete pairs that two names cover. -/
def covered (type subtype : String) : Set (String × String) :=
  if type = "*" then {pair | Concrete pair}
  else if subtype = "*" then {pair | Concrete pair ∧ pair.1 = type}
  else {(type, subtype)}

/-- The concrete pairs that a media type covers. -/
def denotes (a : MediaType) : Set (String × String) :=
  covered a.type a.subtype

theorem mem_denotes_iff {pair : String × String} :
    pair ∈ a.denotes ↔
      Concrete pair ∧ (a.type = "*" ∨ a.type = pair.1 ∧ (a.subtype = "*" ∨ a.subtype = pair.2)) := by
  unfold denotes covered
  by_cases htype : a.type = "*"
  · simp [htype]
  by_cases hsubtype : a.subtype = "*"
  · simp [htype, hsubtype, eq_comm]
  · simp only [htype, hsubtype, if_false, false_or, Set.mem_singleton_iff]
    constructor
    · rintro rfl
      exact ⟨⟨htype, hsubtype⟩, rfl, rfl⟩
    · rintro ⟨-, hfirst, hsecond⟩
      exact Prod.ext hfirst.symm hsecond.symm

/-- A concrete media type is covered exactly by those that include it. -/
theorem names_mem_denotes_iff (h : Concrete b.names) :
    b.names ∈ a.denotes ↔ a.includes b = true := by
  rw [mem_denotes_iff, includes_iff]
  constructor
  · rintro ⟨-, hall | ⟨htype, hwild | hsame⟩⟩
    · exact .everything hall
    · exact .subtypes htype hwild
    · exact .same htype hsame
  · intro hcovers
    refine ⟨h, ?_⟩
    cases hcovers with
    | everything hall => exact .inl hall
    | subtypes htype hwild => exact .inr ⟨htype, .inl hwild⟩
    | same htype hsame => exact .inr ⟨htype, .inr hsame⟩

/-! ## A pair that decides -/

/-- A name that stands in for the wildcard and is not the given one. -/
def otherName (name : String) : String :=
  if name = "a" then "b" else "a"

theorem otherName_ne (name : String) : otherName name ≠ name := by
  unfold otherName
  by_cases hname : name = "a"
  · simp [hname]
  · rw [if_neg hname]
    exact fun h => hname h.symm

/-- A name, or one that is not the other name where it is the wildcard. -/
def filled (name other : String) : String :=
  if name = "*" then otherName other else name

theorem filled_ne_wildcard (name other : String) : filled name other ≠ "*" := by
  unfold filled otherName
  by_cases hname : name = "*"
  · by_cases hother : other = "a"
    · simp [hname, hother]
    · simp [hname, hother]
  · simp [hname]

theorem filled_ne_empty {name : String} (h : name ≠ "") (other : String) :
    filled name other ≠ "" := by
  unfold filled otherName
  by_cases hname : name = "*"
  · by_cases hother : other = "a"
    · simp [hname, hother]
    · simp [hname, hother]
  · simp [hname, h]

theorem eq_wildcard_or_eq_filled (name other : String) :
    name = "*" ∨ name = filled name other := by
  unfold filled
  by_cases hname : name = "*"
  · exact .inl hname
  · exact .inr (if_neg hname).symm

/-- What stands in for a wildcard is not the other name, so a match is one of the names. -/
theorem eq_of_eq_filled {name other : String} (h : other = filled name other) : other = name := by
  unfold filled at h
  by_cases hname : name = "*"
  · rw [if_pos hname] at h
    exact absurd h.symm (otherName_ne other)
  · rwa [if_neg hname] at h

/-- The names of a media type, with names that another one does not have for the wildcards. -/
def generic (b a : MediaType) : String × String :=
  (filled b.type a.type, filled b.subtype a.subtype)

theorem generic_mem_denotes (b a : MediaType) : b.generic a ∈ b.denotes := by
  refine mem_denotes_iff.mpr ⟨⟨filled_ne_wildcard _ _, filled_ne_wildcard _ _⟩, ?_⟩
  rcases eq_wildcard_or_eq_filled b.type a.type with hall | htype
  · exact .inl hall
  · exact .inr ⟨htype, eq_wildcard_or_eq_filled b.subtype a.subtype⟩

/-- A media type that covers the deciding pair of another one covers the other one. -/
theorem Covers.of_generic_mem (h : b.generic a ∈ a.denotes) : Covers a b := by
  obtain ⟨-, hall | ⟨htype, hwild | hsubtype⟩⟩ := mem_denotes_iff.mp h
  · exact .everything hall
  · exact .subtypes (eq_of_eq_filled htype) hwild
  · exact .same (eq_of_eq_filled htype) (eq_of_eq_filled hsubtype)

/-! ## Inclusion and compatibility -/

theorem Covers.denotes_subset (h : Covers a b) : b.denotes ⊆ a.denotes := by
  intro pair hpair
  obtain ⟨hconcrete, hmatched⟩ := mem_denotes_iff.mp hpair
  refine mem_denotes_iff.mpr ⟨hconcrete, ?_⟩
  cases h with
  | everything hall => exact .inl hall
  | subtypes htype hwild =>
      rcases hmatched with hall | ⟨hfirst, -⟩
      · exact .inl (htype.trans hall)
      · exact .inr ⟨htype.trans hfirst, .inl hwild⟩
  | same htype hsubtype =>
      rw [htype, hsubtype]
      exact hmatched

theorem includes_iff_subset : a.includes b = true ↔ b.denotes ⊆ a.denotes := by
  rw [includes_iff]
  constructor
  · exact Covers.denotes_subset
  · exact fun hsubset => .of_generic_mem (hsubset (generic_mem_denotes b a))

/-- Inclusion is decided by concrete media types: the one includes all that the other one does. -/
theorem includes_iff_forall_concrete :
    a.includes b = true ↔
      ∀ m : MediaType, Concrete m.names → b.includes m = true → a.includes m = true := by
  constructor
  · intro hab m hconcrete hbm
    rw [← names_mem_denotes_iff hconcrete] at hbm ⊢
    exact includes_iff_subset.mp hab hbm
  · intro hall
    have hmem := generic_mem_denotes b a
    obtain ⟨hconcrete, -⟩ := mem_denotes_iff.mp hmem
    have htype : (b.generic a).1 ≠ "" := filled_ne_empty b.type_ne _
    have hsubtype : (b.generic a).2 ≠ "" := filled_ne_empty b.subtype_ne _
    let m := plain (b.generic a).1 (b.generic a).2 htype hsubtype
      fun hwild => absurd hwild hconcrete.type
    have hnames : m.names = b.generic a := rfl
    have hm : Concrete m.names := hnames ▸ hconcrete
    have hbm : b.includes m = true := (names_mem_denotes_iff hm).mp (hnames ▸ hmem)
    have ham := (names_mem_denotes_iff hm).mpr (hall m hm hbm)
    exact includes_iff.mpr (.of_generic_mem (hnames ▸ ham))

theorem isCompatibleWith_iff_nonempty :
    a.isCompatibleWith b = true ↔ (a.denotes ∩ b.denotes).Nonempty := by
  rw [isCompatibleWith_iff]
  constructor
  · rintro (hcovers | hcovers)
    · have hmem := generic_mem_denotes b a
      exact ⟨_, hcovers.denotes_subset hmem, hmem⟩
    · have hmem := generic_mem_denotes a b
      exact ⟨_, hmem, hcovers.denotes_subset hmem⟩
  · rintro ⟨pair, ha, hb⟩
    obtain ⟨-, halla | ⟨htypea, hsubtypea⟩⟩ := mem_denotes_iff.mp ha
    · exact .inl (.everything halla)
    obtain ⟨-, hallb | ⟨htypeb, hsubtypeb⟩⟩ := mem_denotes_iff.mp hb
    · exact .inr (.everything hallb)
    -- both have the type of the pair
    have htype : a.type = b.type := htypea.trans htypeb.symm
    rcases hsubtypea with hwilda | hsamea
    · exact .inl (.subtypes htype hwilda)
    rcases hsubtypeb with hwildb | hsameb
    · exact .inr (.subtypes htype.symm hwildb)
    · exact .inl (.same htype (hsamea.trans hsameb.symm))

/-! ## Specificity -/

/-- The specificity is the number of wildcards. -/
theorem specificity_eq_count (a : MediaType) :
    a.specificity = (if a.type = "*" then 1 else 0) + if a.subtype = "*" then 1 else 0 := by
  unfold specificity isWildcardType isWildcardSubtype
  by_cases htype : a.type = "*"
  · simp [htype, a.wildcard htype]
  · simp [htype]

/-- The names of a covering type have the wildcards of the covered ones. -/
theorem Covers.wildcards (h : Covers a b) :
    (b.type = "*" → a.type = "*") ∧ (b.subtype = "*" → a.subtype = "*") := by
  cases h with
  | everything hall => exact ⟨fun _ => hall, fun _ => a.wildcard hall⟩
  | subtypes htype hwild => exact ⟨fun hall => htype.trans hall, fun _ => hwild⟩
  | same htype hsubtype => exact ⟨fun hall => htype.trans hall, fun hwild => hsubtype.trans hwild⟩

/-- A covered type is at least as specific as the covering one, and only the names of the covering
one are equally specific. -/
theorem Covers.specificity (h : Covers a b) :
    b.specificity ≤ a.specificity ∧ (b.specificity = a.specificity → a.names = b.names) := by
  obtain ⟨htypes, hsubtypes⟩ := h.wildcards
  rw [specificity_eq_count, specificity_eq_count]
  constructor
  · grind
  · intro hequal
    have hback : (a.type = "*" → b.type = "*") ∧ (a.subtype = "*" → b.subtype = "*") := by grind
    cases h with
    | everything hall =>
        have hboth := hback.1 hall
        exact Prod.ext (hall.trans hboth.symm)
          ((a.wildcard hall).trans (b.wildcard hboth).symm)
    | subtypes htype hwild => exact Prod.ext htype (hwild.trans (hback.2 hwild).symm)
    | same htype hsubtype => exact Prod.ext htype hsubtype

theorem Covers.antisymm (h : Covers a b) (h' : Covers b a) : a.names = b.names :=
  h.specificity.2 (Nat.le_antisymm h.specificity.1 h'.specificity.1)

/-! ## Media types that parts form -/

/-- The set of a media type that texts form depends on the texts only. -/
theorem denotes_of_ofParts {type subtype : String} {quality : Binary64} {order : Int}
    {parameters : Keyed String} (h : ofParts type subtype quality order parameters = .ok a) :
    a.denotes = covered (normalName type) (normalName subtype) := by
  obtain ⟨htype, hsubtype, -⟩ := ofParts_eq_ok_iff.mp h
  rw [denotes, htype, hsubtype]

/-- Media types with the same set compare in the same way. -/
theorem comparisons_eq_of_denotes_eq (h : a.denotes = b.denotes) (c : MediaType) :
    a.includes c = b.includes c ∧ c.includes a = c.includes b ∧
      a.isCompatibleWith c = b.isCompatibleWith c := by
  refine ⟨Bool.eq_iff_iff.mpr ?_, Bool.eq_iff_iff.mpr ?_, Bool.eq_iff_iff.mpr ?_⟩
  · rw [includes_iff_subset, includes_iff_subset, h]
  · rw [includes_iff_subset, includes_iff_subset, h]
  · rw [isCompatibleWith_iff_nonempty, isCompatibleWith_iff_nonempty, h]

/-- Inclusion and compatibility are exactly those of the sets that media types denote.  So every
media type includes itself, inclusion is transitive, media types that include each other have one
essence, and compatibility is symmetric.  A type that is included is at least as specific, and
equally specific only under the same names.  The set comes from the two texts that formed the media
type, in their normal form; no comparison depends on its quality, its position or its parameters. -/
theorem comparisons_iff_sets (a b : MediaType) :
    (a.includes b = true ↔ b.denotes ⊆ a.denotes) ∧
    (a.isCompatibleWith b = true ↔ (a.denotes ∩ b.denotes).Nonempty) ∧
    a.includes a = true ∧
    (∀ c, a.includes b = true → b.includes c = true → a.includes c = true) ∧
    (a.includes b = true → b.includes a = true → a.essence = b.essence) ∧
    a.isCompatibleWith b = b.isCompatibleWith a ∧
    (a.includes b = true → b.specificity ≤ a.specificity ∧
      (b.specificity = a.specificity → a.type = b.type ∧ a.subtype = b.subtype)) ∧
    ∀ {type subtype quality order parameters},
      ofParts type subtype quality order parameters = .ok a →
      a.denotes = covered (normalName type) (normalName subtype) ∧
      ∀ {quality' order' parameters' a'},
        ofParts type subtype quality' order' parameters' = .ok a' →
        a.includes b = a'.includes b ∧ b.includes a = b.includes a' ∧
          a.isCompatibleWith b = a'.isCompatibleWith b := by
  refine ⟨includes_iff_subset, isCompatibleWith_iff_nonempty, ?_, ?_, ?_, ?_, ?_, ?_⟩
  · exact includes_iff_subset.mpr (Set.Subset.refl _)
  · intro c hab hbc
    rw [includes_iff_subset] at hab hbc ⊢
    exact hbc.trans hab
  · intro hab hba
    exact essence_eq_of_names ((includes_iff.mp hab).antisymm (includes_iff.mp hba))
  · rw [Bool.eq_iff_iff, isCompatibleWith_iff_nonempty, isCompatibleWith_iff_nonempty,
      Set.inter_comm]
  · intro hab
    obtain ⟨hle, hnames⟩ := (includes_iff.mp hab).specificity
    exact ⟨hle, fun hequal => Prod.mk.inj (hnames hequal)⟩
  · intro type subtype quality order parameters hformed
    refine ⟨denotes_of_ofParts hformed, ?_⟩
    intro quality' order' parameters' a' hformed'
    exact comparisons_eq_of_denotes_eq
      ((denotes_of_ofParts hformed).trans (denotes_of_ofParts hformed').symm) b

/-- All types of text. -/
def textAny : MediaType :=
  { textHtml with subtype := "*", subtype_ne := all.subtype_ne, wildcard := fun _ => rfl }

theorem comparisons_iff_sets_sample :
    textHtml.denotes ⊆ textAny.denotes ∧ ¬ applicationJson.denotes ⊆ textAny.denotes ∧
    (all.denotes ∩ textHtml.denotes).Nonempty ∧ all.includes textHtml = true ∧
    textHtml.specificity ≤ textAny.specificity ∧
    ∃ texts, ofParts "text " "*" .one 0 [] = .ok texts ∧
      texts.denotes = covered (normalName "text ") (normalName "*") ∧
      ∃ unwanted, ofParts "text " "*" (.finite false 0) 3 [("level", "1")] = .ok unwanted ∧
        texts.essence = unwanted.essence ∧
        texts.includes textHtml = unwanted.includes textHtml := by
  have htexts : ofParts "text " "*" .one 0 [] = .ok textAny :=
    ofParts_eq_ok_iff.mpr ⟨by decide, by decide, rfl, rfl, rfl⟩
  let textUnwanted : MediaType :=
    { textAny with quality := .zero, order := 3, parameters := [("level", "1")] }
  have hunwanted :
      ofParts "text " "*" (.finite false 0) 3 [("level", "1")] = .ok textUnwanted :=
    ofParts_eq_ok_iff.mpr ⟨by decide, by decide, rfl, rfl, rfl⟩
  obtain ⟨hincludes, -, -, -, -, -, hspecific, hformed⟩ := comparisons_iff_sets textAny textHtml
  obtain ⟨hset, hsame⟩ := hformed htexts
  refine ⟨hincludes.mp (by decide), ?_, ?_, ?_, (hspecific (by decide)).1,
    textAny, htexts, hset, textUnwanted, hunwanted, ?_, (hsame hunwanted).1⟩
  · rw [← (comparisons_iff_sets textAny applicationJson).1]
    decide
  · exact (comparisons_iff_sets all textHtml).2.1.mp (by decide)
  · exact (comparisons_iff_sets all textAny).2.2.2.1 textHtml (by decide) (by decide)
  · exact (comparisons_iff_sets textAny textUnwanted).2.2.2.2.1 (by decide) (by decide)

end MediaType

end SignOut
