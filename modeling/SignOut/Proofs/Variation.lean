import SignOut.Proofs.Agreement
import SignOut.Proofs.LetterCase

/-!
# Variations of a header

A header can be varied in ways that no answer depends on.  Pieces that declare nothing acceptable
come and go, a piece is spelled in another way, and neighbours that do not tie change places.  What
a piece adds to the essences of one quality and one specificity does not depend on its position, so
each of these steps leaves them as they are.  The main statement, `agreement`, puts this together
with the law of headers that negotiate alike.
-/

namespace SignOut

namespace Accept

open Numeric Text MediaType

variable {piece piece' : List Char} {position position' : Nat} {m m' : MediaType}

/-! ## Spellings of a piece -/

/-- Two pieces are spellings of one another: the sides of their essences are the same names apart
from letter case and the blanks around them, and they state the same numbers as their qualities.
All other parameters may differ. -/
structure Respelled (piece piece' : List Char) : Prop where
  sides : (fields '/' (essenceText piece)).map (fun side => lower (strip side)) =
    (fields '/' (essenceText piece')).map fun side => lower (strip side)
  stated : (parametersNamed qualityName piece).map (fun part =>
      Binary64.ofText? (parameterValue part)) =
    (parametersNamed qualityName piece').map fun part => Binary64.ofText? (parameterValue part)

namespace Respelled

theorem refl (piece : List Char) : Respelled piece piece :=
  ⟨rfl, rfl⟩

theorem symm (h : Respelled piece piece') : Respelled piece' piece :=
  ⟨h.sides.symm, h.stated.symm⟩

/-- Basic letters may stand in either case anywhere in a piece. -/
theorem of_letterCase (piece : List Char) : Respelled (piece.map lowerBasic) piece := by
  constructor
  · rw [essenceText_map_lowerBasic, fields_map (lowerBasic_eq_iff (by decide)), List.map_map]
    refine List.map_congr_left fun side _ => ?_
    rw [Function.comp_apply, strip_map_lowerBasic, lower_map_lowerBasic]
  · unfold parametersNamed
    rw [parameterTexts_map_lowerBasic, List.filter_map, List.map_map]
    have hnames : (fun part => decide (parameterName part = qualityName)) ∘ List.map lowerBasic =
        fun part => decide (parameterName part = qualityName) := by
      funext part
      rw [Function.comp_apply, parameterName_map_lowerBasic]
    rw [hnames]
    refine List.map_congr_left fun part _ => ?_
    rw [Function.comp_apply, parameterValue_map_lowerBasic, ofText?_map_lowerBasic]

instance (piece piece' : List Char) : Decidable (Respelled piece piece') :=
  decidable_of_iff (_ ∧ _) ⟨fun h => ⟨h.1, h.2⟩, fun h => ⟨h.sides, h.stated⟩⟩

/-- A spelling of a well-formed piece has two sides as well, with the same names. -/
theorem exists_reads (h : Respelled piece piece') {left right : List Char}
    {numbers : List Binary64} (hreads : Reads piece left right numbers) :
    ∃ left' right', Reads piece' left' right' numbers ∧
      lower (strip left) = lower (strip left') ∧ lower (strip right) = lower (strip right') := by
  have hsides := h.sides
  rw [fields_eq_pair_iff.mpr ⟨hreads.essence, hreads.left_single, hreads.right_single⟩,
    List.map_cons, List.map_cons, List.map_nil] at hsides
  obtain ⟨left', rest, hfields, hleft, hrest⟩ := List.map_eq_cons_iff.mp hsides.symm
  obtain ⟨right', rest, rfl, hright, hnil⟩ := List.map_eq_cons_iff.mp hrest
  obtain rfl := List.map_eq_nil_iff.mp hnil
  obtain ⟨hessence, hleftSingle, hrightSingle⟩ := fields_eq_pair_iff.mp hfields
  refine ⟨left', right', ?_, hleft.symm, hright.symm⟩
  refine ⟨hessence, hleftSingle, hrightSingle, ?_, ?_, ?_, h.stated.symm.trans hreads.stated,
    hreads.number, hreads.nonneg, hreads.le_one⟩
  · intro hblank
    rw [hblank] at hleft
    exact hreads.left_ne (lower_eq_nil_iff.mp hleft.symm)
  · intro hblank
    rw [hblank] at hright
    exact hreads.right_ne (lower_eq_nil_iff.mp hright.symm)
  · intro hwildcard
    rw [hwildcard] at hleft
    have hfull := hreads.wildcard (lower_eq_wildcard_iff.mp hleft.symm)
    rw [hfull] at hright
    exact lower_eq_wildcard_iff.mp hright

theorem wellFormed_iff (h : Respelled piece piece') : WellFormed piece ↔ WellFormed piece' := by
  constructor
  · rintro ⟨left, right, numbers, hreads⟩
    obtain ⟨left', right', hreads', -, -⟩ := h.exists_reads hreads
    exact ⟨left', right', numbers, hreads'⟩
  · rintro ⟨left, right, numbers, hreads⟩
    obtain ⟨left', right', hreads', -, -⟩ := h.symm.exists_reads hreads
    exact ⟨left', right', numbers, hreads'⟩

end Respelled

/-- A piece is read in one way only. -/
theorem Reads.unique {left right left' right' : List Char} {numbers numbers' : List Binary64}
    (h : Reads piece left right numbers) (h' : Reads piece left' right' numbers') :
    left = left' ∧ right = right' ∧ numbers = numbers' := by
  have hsides := fields_eq_pair_iff.mpr ⟨h.essence, h.left_single, h.right_single⟩
  rw [fields_eq_pair_iff.mpr ⟨h'.essence, h'.left_single, h'.right_single⟩] at hsides
  obtain ⟨hleft, hright⟩ := List.cons.inj hsides
  have hnumbers : numbers.map some = numbers'.map some := h.stated.symm.trans h'.stated
  exact ⟨hleft.symm, (List.cons.inj hright).1.symm,
    (List.map_inj_right fun _ _ => Option.some.inj).mp hnumbers⟩

/-- What spellings of one piece declare has the same names and the same quality, at whatever
positions they stand. -/
theorem Declares.agrees (h : Declares piece position m) (h' : Declares piece' position' m')
    (hsame : Respelled piece piece') :
    m.type = m'.type ∧ m.subtype = m'.subtype ∧ m.quality = m'.quality := by
  obtain ⟨left, right, numbers, hreads, htype, hsubtype, hquality⟩ := h.reads
  obtain ⟨left', right', numbers', hreads', htype', hsubtype', hquality'⟩ := h'.reads
  obtain ⟨_, _, hother, hleft, hright⟩ := hsame.exists_reads hreads
  obtain ⟨rfl, rfl, rfl⟩ := hother.unique hreads'
  exact ⟨by rw [htype, htype', hleft], by rw [hsubtype, hsubtype', hright],
    Quality.eq_of_value_eq (hquality.trans hquality'.symm)⟩

/-! ## What a piece adds to a header -/

theorem essencesAt_append (quality : Quality) (specificity : Nat) (ms ms' : List MediaType) :
    essencesAt quality specificity (ms ++ ms') =
      essencesAt quality specificity ms ++ essencesAt quality specificity ms' := by
  unfold essencesAt
  rw [List.filter_append, List.map_append]

theorem specificity_eq_of_names (htype : m.type = m'.type) (hsubtype : m.subtype = m'.subtype) :
    m.specificity = m'.specificity := by
  unfold MediaType.specificity isWildcardType isWildcardSubtype
  rw [htype, hsubtype]

theorem essencesAt_congr (quality : Quality) (specificity : Nat) (htype : m.type = m'.type)
    (hsubtype : m.subtype = m'.subtype) (hquality : m.quality = m'.quality) :
    essencesAt quality specificity [m] = essencesAt quality specificity [m'] := by
  have hspecificity := specificity_eq_of_names htype hsubtype
  have hessence : m.essence = m'.essence := by
    unfold essence
    rw [htype, hsubtype]
  unfold essencesAt
  simp only [List.filter_cons, List.filter_nil, hquality, hspecificity]
  split
  · rw [List.map_singleton, List.map_singleton, hessence]
  · rfl

/-- What a piece adds to the essences of one quality and one specificity. -/
def addition (quality : Quality) (specificity : Nat) (piece : List Char) : List String :=
  essencesAt quality specificity (declaration? 0 piece).toList

variable {quality : Quality} {specificity : Nat}

theorem addition_of_malformed (h : ¬ WellFormed piece) : addition quality specificity piece = [] := by
  unfold addition
  rw [declaration?_eq_none_iff.mpr h]
  rfl

theorem addition_of_declares (h : Declares piece position m) :
    addition quality specificity piece = essencesAt quality specificity [m] := by
  obtain ⟨m₀, hm₀⟩ := exists_declaration?_of_wellFormed (wellFormed_of_declares h) 0
  obtain ⟨htype, hsubtype, hquality⟩ :=
    (declares_of_declaration? hm₀).agrees h (Respelled.refl piece)
  unfold addition
  rw [hm₀]
  exact essencesAt_congr quality specificity htype hsubtype hquality

/-- The essences of a header are those that its pieces add. -/
theorem Declared.essencesAt_eq {pieces : List (List Char)} {ms : List MediaType}
    (h : Declared position pieces ms) :
    essencesAt quality specificity ms = pieces.flatMap (addition quality specificity) := by
  induction h with
  | nil => rfl
  | @wellFormed _ _ _ m ms hpiece _ ih =>
      have hcons : m :: ms = [m] ++ ms := rfl
      rw [hcons, essencesAt_append, List.flatMap_cons, addition_of_declares hpiece, ih]
  | malformed hpiece _ ih =>
      rw [List.flatMap_cons, addition_of_malformed hpiece, ih]
      rfl

theorem exists_declares_of_mem_addition {e : String}
    (h : e ∈ addition quality specificity piece) :
    ∃ m, Declares piece 0 m ∧ m.quality = quality ∧ m.specificity = specificity := by
  obtain ⟨m, hm, -⟩ := List.mem_map.mp h
  obtain ⟨hread, hrank⟩ := List.mem_filter.mp hm
  exact ⟨m, declares_of_declaration? (Option.mem_toList.mp hread), of_decide_eq_true hrank⟩

/-! ## Varying a header -/

/-- A piece that declares nothing acceptable: it is malformed, or its quality is not positive. -/
def Idle (piece : List Char) : Prop :=
  ∀ position m, Declares piece position m → ¬ Quality.zero < m.quality

/-- Two pieces that cannot tie: what they declare differs in quality or in specificity. -/
def Apart (piece piece' : List Char) : Prop :=
  ∀ position m position' m', Declares piece position m → Declares piece' position' m' →
    ¬ m.quality.Same m'.quality ∨ m.specificity ≠ m'.specificity

/-- What a piece declares at any position has the quality and the specificity of what is read from
it at the first one. -/
theorem Declares.exists_mem_declaration? (h : Declares piece position m) :
    ∃ m₀ ∈ (declaration? 0 piece).toList,
      m.quality = m₀.quality ∧ m.specificity = m₀.specificity := by
  obtain ⟨m₀, hm₀⟩ := exists_declaration?_of_wellFormed (wellFormed_of_declares h) 0
  obtain ⟨htype, hsubtype, hquality⟩ :=
    h.agrees (declares_of_declaration? hm₀) (Respelled.refl piece)
  exact ⟨m₀, Option.mem_toList.mpr hm₀, hquality, specificity_eq_of_names htype hsubtype⟩

instance (piece : List Char) : Decidable (Idle piece) :=
  decidable_of_iff (∀ m ∈ (declaration? 0 piece).toList, ¬ Quality.zero < m.quality) <| by
    constructor
    · intro h position m hm
      obtain ⟨m₀, hmem, hquality, -⟩ := hm.exists_mem_declaration?
      exact hquality ▸ h m₀ hmem
    · intro h m hm
      exact h 0 m (declares_of_declaration? (Option.mem_toList.mp hm))

instance (piece piece' : List Char) : Decidable (Apart piece piece') :=
  decidable_of_iff (∀ m ∈ (declaration? 0 piece).toList, ∀ m' ∈ (declaration? 0 piece').toList,
      ¬ m.quality.Same m'.quality ∨ m.specificity ≠ m'.specificity) <| by
    constructor
    · intro h position m position' m' hm hm'
      obtain ⟨m₀, hmem, hquality, hspecificity⟩ := hm.exists_mem_declaration?
      obtain ⟨m₀', hmem', hquality', hspecificity'⟩ := hm'.exists_mem_declaration?
      rw [hquality, hquality', hspecificity, hspecificity']
      exact h m₀ hmem m₀' hmem'
    · intro h m hm m' hm'
      exact h 0 m 0 m' (declares_of_declaration? (Option.mem_toList.mp hm))
        (declares_of_declaration? (Option.mem_toList.mp hm'))

theorem Idle.addition_eq_nil (h : Idle piece) (hpositive : Quality.zero < quality) :
    addition quality specificity piece = [] := by
  refine List.eq_nil_iff_forall_not_mem.mpr fun e he => ?_
  obtain ⟨m, hdeclares, rfl, -⟩ := exists_declares_of_mem_addition he
  exact h 0 m hdeclares hpositive

theorem Respelled.addition_eq (h : Respelled piece piece') :
    addition quality specificity piece = addition quality specificity piece' := by
  by_cases hwell : WellFormed piece
  · obtain ⟨m, hm⟩ := exists_declaration?_of_wellFormed hwell 0
    obtain ⟨m', hm'⟩ := exists_declaration?_of_wellFormed (h.wellFormed_iff.mp hwell) 0
    have hdeclares := declares_of_declaration? hm
    have hdeclares' := declares_of_declaration? hm'
    obtain ⟨htype, hsubtype, hquality⟩ := hdeclares.agrees hdeclares' h
    rw [addition_of_declares hdeclares, addition_of_declares hdeclares']
    exact essencesAt_congr quality specificity htype hsubtype hquality
  · rw [addition_of_malformed hwell, addition_of_malformed (mt h.wellFormed_iff.mpr hwell)]

/-- Of two pieces that cannot tie, one adds nothing. -/
theorem Apart.addition_append_comm (h : Apart piece piece') :
    addition quality specificity piece ++ addition quality specificity piece' =
      addition quality specificity piece' ++ addition quality specificity piece := by
  cases hleft : addition quality specificity piece with
  | nil => rw [List.nil_append, List.append_nil]
  | cons e es =>
      cases hright : addition quality specificity piece' with
      | nil => rw [List.nil_append, List.append_nil]
      | cons e' es' =>
          obtain ⟨m, hm, hquality, hspecificity⟩ :=
            exists_declares_of_mem_addition (hleft ▸ List.mem_cons_self)
          obtain ⟨m', hm', hquality', hspecificity'⟩ :=
            exists_declares_of_mem_addition (hright ▸ List.mem_cons_self)
          rcases h 0 m 0 m' hm hm' with hdiffer | hdiffer
          · rw [hquality, hquality', Quality.same_iff_size_eq] at hdiffer
            exact absurd rfl hdiffer
          · exact absurd (hspecificity.trans hspecificity'.symm) hdiffer

/-- Pieces that come from others by putting in or leaving out idle ones, by spelling one of them in
another way and by exchanging neighbours that cannot tie. -/
inductive Variant : List (List Char) → List (List Char) → Prop
  | refl (pieces : List (List Char)) : Variant pieces pieces
  | symm {pieces pieces' : List (List Char)} (h : Variant pieces pieces') : Variant pieces' pieces
  | trans {pieces pieces' pieces'' : List (List Char)} (h : Variant pieces pieces')
      (h' : Variant pieces' pieces'') : Variant pieces pieces''
  | idle {piece : List Char} (h : Idle piece) (before after : List (List Char)) :
      Variant (before ++ after) (before ++ piece :: after)
  | respelled {piece piece' : List Char} (h : Respelled piece piece')
      (before after : List (List Char)) :
      Variant (before ++ piece :: after) (before ++ piece' :: after)
  | apart {piece piece' : List Char} (h : Apart piece piece') (before after : List (List Char)) :
      Variant (before ++ piece :: piece' :: after) (before ++ piece' :: piece :: after)

/-- No variation changes the essences of a positive quality. -/
theorem Variant.flatMap_addition {pieces pieces' : List (List Char)} (h : Variant pieces pieces')
    (hpositive : Quality.zero < quality) :
    pieces.flatMap (addition quality specificity) =
      pieces'.flatMap (addition quality specificity) := by
  induction h with
  | refl => rfl
  | symm _ ih => exact ih.symm
  | trans _ _ ih ih' => exact ih.trans ih'
  | idle hidle before after =>
      rw [List.flatMap_append, List.flatMap_append, List.flatMap_cons,
        hidle.addition_eq_nil hpositive, List.nil_append]
  | respelled hspelling before after =>
      rw [List.flatMap_append, List.flatMap_append, List.flatMap_cons, List.flatMap_cons,
        hspelling.addition_eq]
  | apart happart before after =>
      rw [List.flatMap_append, List.flatMap_append]
      refine congrArg (before.flatMap (addition quality specificity) ++ ·) ?_
      rw [List.flatMap_cons, List.flatMap_cons, List.flatMap_cons, List.flatMap_cons,
        ← List.append_assoc, happart.addition_append_comm, List.append_assoc]

theorem essencesAt_parse (header : String) (quality : Quality) (specificity : Nat) :
    essencesAt quality specificity (parse (some header)) =
      (fields ',' header.toList).flatMap (addition quality specificity) :=
  (declared_entriesFrom 0 _).essencesAt_eq

theorem Variant.sameEssences {header header' : String}
    (h : Variant (fields ',' header.toList) (fields ',' header'.toList)) :
    SameEssences (some header) (some header') := by
  intro quality specificity hpositive
  rw [essencesAt_parse, essencesAt_parse]
  exact h.flatMap_addition hpositive

/-- Headers that differ in the case of basic letters only declare the same essences. -/
theorem sameEssences_of_letterCase {header header' : String}
    (h : header.toList.map lowerBasic = header'.toList.map lowerBasic) :
    SameEssences (some header) (some header') := by
  intro quality specificity _
  have hpiece : ∀ piece : List Char,
      addition quality specificity (piece.map lowerBasic) = addition quality specificity piece :=
    fun piece => (Respelled.of_letterCase piece).addition_eq
  have hsmall : ∀ header : String,
      essencesAt quality specificity (parse (some header)) =
        (fields ',' (header.toList.map lowerBasic)).flatMap (addition quality specificity) := by
    intro header
    rw [essencesAt_parse, fields_map (lowerBasic_eq_iff (by decide)), List.flatMap_map]
    simp only [hpiece]
  rw [hsmall, hsmall, h]

end Accept

namespace Negotiation

open Numeric Text Accept

/-- Two headers are ranked alike and get the same answers if they declare the same essences at every
positive quality and every specificity; so they do if one is a variation of the other, and if they
differ in the case of basic letters only. -/
theorem agreement :
    (∀ accept accept' : Option String, SameEssences accept accept' → Agree accept accept') ∧
    (∀ header header' : String, Variant (fields ',' header.toList) (fields ',' header'.toList) →
      Agree (some header) (some header')) ∧
    ∀ header header' : String, header.toList.map lowerBasic = header'.toList.map lowerBasic →
      Agree (some header) (some header') :=
  ⟨fun _ _ => agree_of_sameEssences, fun _ _ h => agree_of_sameEssences h.sameEssences,
    fun _ _ h => agree_of_sameEssences (sameEssences_of_letterCase h)⟩

/-- A header that prefers pages to data. -/
def pagesFirst : String := "text/html, application/json;q=0.5"

/-- The same preference with the data first, in another spelling, and with a blank piece. -/
def pagesFirstVaried : String := "Application/JSON ;q=0.50;level=1, ,text/html"

/-- The same preference in capital letters. -/
def pagesFirstCapital : String := "TEXT/HTML, APPLICATION/JSON;Q=0.5"

/-- An entry may be moved past one of higher quality, and nothing depends on how it is spelled. -/
theorem agreement_sample :
    (SameEssences (some pagesFirst) (some pagesFirstVaried) ∧
      Agree (some pagesFirst) (some pagesFirstVaried)) ∧
    (Variant (fields ',' pagesFirstVaried.toList) (fields ',' pagesFirst.toList) ∧
      Agree (some pagesFirstVaried) (some pagesFirst)) ∧
    (pagesFirst.toList.map lowerBasic = pagesFirstCapital.toList.map lowerBasic ∧
      Agree (some pagesFirst) (some pagesFirstCapital)) := by
  have hpieces : fields ',' pagesFirst.toList =
      ["text/html".toList, " application/json;q=0.5".toList] := by
    decide +kernel
  have hpieces' : fields ',' pagesFirstVaried.toList =
      ["Application/JSON ;q=0.50;level=1".toList, " ".toList, "text/html".toList] := by
    decide +kernel
  have hvariant : Variant (fields ',' pagesFirst.toList) (fields ',' pagesFirstVaried.toList) := by
    have hmoved : Variant ["text/html".toList, " application/json;q=0.5".toList]
        [" application/json;q=0.5".toList, "text/html".toList] :=
      .apart (by decide +kernel) [] []
    have hspelled : Variant [" application/json;q=0.5".toList, "text/html".toList]
        ["Application/JSON ;q=0.50;level=1".toList, "text/html".toList] :=
      .respelled (by decide +kernel) [] ["text/html".toList]
    have hblank : Variant ["Application/JSON ;q=0.50;level=1".toList, "text/html".toList]
        ["Application/JSON ;q=0.50;level=1".toList, " ".toList, "text/html".toList] :=
      .idle (by decide +kernel) ["Application/JSON ;q=0.50;level=1".toList] ["text/html".toList]
    rw [hpieces, hpieces']
    exact hmoved.trans (hspelled.trans hblank)
  have hcapital : pagesFirst.toList.map lowerBasic = pagesFirstCapital.toList.map lowerBasic := by
    decide +kernel
  exact ⟨⟨hvariant.sameEssences, agreement.1 _ _ hvariant.sameEssences⟩,
    ⟨hvariant.symm, agreement.2.1 _ _ hvariant.symm⟩, ⟨hcapital, agreement.2.2 _ _ hcapital⟩⟩

end Negotiation

end SignOut
