import SignOut.Proofs.Ranking

/-!
# Headers that negotiate alike

Which of two acceptable media types is preferred depends on their qualities and specificities, and
on their positions only where these agree.  Two headers whose media types of every positive
quality and every specificity have the same essences in the same order therefore lead to the same
ranking and to the same answers, however far apart their pieces stand.  A list that is sorted by a
key is determined by what it holds of every single key; the rest is that sorting keeps the declared
order within a key, and that an answer depends on the essence alone.
-/

namespace SignOut

open Numeric Text

/-! ## Lists that are sorted by a key -/

section Classes

variable {α β κ : Type} {before : κ → κ → Prop} {key : α → κ} {image : α → β}
variable {as bs : List α} {a b : α}

/-- In a sorted list the key of the head stands before every other key. -/
theorem before_of_mem_cons (h : (b :: bs).Pairwise fun a b => key a = key b ∨
    before (key a) (key b)) (ha : a ∈ b :: bs) (hne : key b ≠ key a) :
    before (key b) (key a) := by
  rcases List.mem_cons.mp ha with rfl | ha
  · exact absurd rfl hne
  · exact (List.rel_of_pairwise_cons h ha).resolve_left hne

variable [DecidableEq κ]

/-- The elements of two lists that share a key have the same images in the same order. -/
def SameClasses (key : α → κ) (image : α → β) (as bs : List α) : Prop :=
  ∀ k, (as.filter (key · = k)).map image = (bs.filter (key · = k)).map image

theorem SameClasses.symm (h : SameClasses key image as bs) : SameClasses key image bs as :=
  fun k => (h k).symm

/-- A key of the one list is a key of the other one. -/
theorem SameClasses.exists_mem (h : SameClasses key image as bs) (ha : a ∈ as) :
    ∃ b ∈ bs, key b = key a := by
  have hclass : image a ∈ (bs.filter (key · = key a)).map image := by
    rw [← h]
    exact List.mem_map_of_mem (List.mem_filter.mpr ⟨ha, decide_eq_true rfl⟩)
  obtain ⟨b, hb, -⟩ := List.mem_map.mp hclass
  obtain ⟨hmem, hkey⟩ := List.mem_filter.mp hb
  exact ⟨b, hmem, of_decide_eq_true hkey⟩

/-- Heads with one key have one image, and the tails agree as well. -/
theorem SameClasses.of_cons (h : SameClasses key image (a :: as) (b :: bs))
    (hkey : key a = key b) : image a = image b ∧ SameClasses key image as bs := by
  have hclass : ∀ {k}, key a = k → image a = image b ∧
      (as.filter (key · = k)).map image = (bs.filter (key · = k)).map image := by
    intro k hk
    have hboth := h k
    rw [List.filter_cons_of_pos (by simpa using hk),
      List.filter_cons_of_pos (by simpa [← hkey] using hk)] at hboth
    exact List.cons.inj hboth
  refine ⟨(hclass rfl).1, fun k => ?_⟩
  by_cases hk : key a = k
  · exact (hclass hk).2
  · have hboth := h k
    rw [List.filter_cons_of_neg (by simpa using hk),
      List.filter_cons_of_neg (by simpa [← hkey] using hk)] at hboth
    exact hboth

/-- Lists that are sorted by a key have the same keys and images in the same order if they do so
for every single key. -/
theorem SameClasses.map_eq (hasymm : ∀ k l, before k l → ¬ before l k)
    (has : as.Pairwise fun a b => key a = key b ∨ before (key a) (key b))
    (hbs : bs.Pairwise fun a b => key a = key b ∨ before (key a) (key b))
    (h : SameClasses key image as bs) :
    as.map (fun a => (image a, key a)) = bs.map fun b => (image b, key b) := by
  induction as generalizing bs with
  | nil =>
      cases bs with
      | nil => rfl
      | cons b bs =>
          obtain ⟨a, ha, -⟩ := h.symm.exists_mem List.mem_cons_self
          cases ha
  | cons a as ih =>
      cases bs with
      | nil =>
          obtain ⟨b, hb, -⟩ := h.exists_mem List.mem_cons_self
          cases hb
      | cons b bs =>
          -- with different keys each of the heads would stand before the other one
          have hkey : key a = key b := by
            obtain ⟨a', ha', ha⟩ := h.exists_mem List.mem_cons_self
            obtain ⟨b', hb', hb⟩ := h.symm.exists_mem List.mem_cons_self
            refine Classical.byContradiction fun hne => hasymm (key a) (key b) ?_ ?_
            · rw [← hb] at hne ⊢
              exact before_of_mem_cons has hb' hne
            · rw [← ha] at hne ⊢
              exact before_of_mem_cons hbs ha' (Ne.symm hne)
          obtain ⟨himage, htail⟩ := h.of_cons hkey
          rw [List.map_cons, List.map_cons, himage, hkey,
            ih (List.Pairwise.of_cons has) (List.Pairwise.of_cons hbs) htail]

end Classes

namespace Accept

open MediaType

/-! ## Rankings are determined class by class -/

/-- What decides between two acceptable media types before their positions do. -/
def rank (m : MediaType) : Quality × Nat :=
  (m.quality, m.specificity)

/-- The first rank is the better one. -/
def Outranks (k l : Quality × Nat) : Prop :=
  l.1 < k.1 ∨ k.1.Same l.1 ∧ k.2 < l.2

theorem Outranks.asymm (k l : Quality × Nat) (h : Outranks k l) : ¬ Outranks l k := by
  unfold Outranks at h ⊢
  rw [Quality.lt_iff_size_lt, Quality.same_iff_size_eq] at h ⊢
  omega

/-- The essences of the media types with a quality and a specificity, in their order. -/
def essencesAt (quality : Quality) (specificity : Nat) (ms : List MediaType) : List String :=
  (ms.filter fun m => m.quality = quality ∧ m.specificity = specificity).map essence

theorem rank_eq_iff {m : MediaType} {quality : Quality} {specificity : Nat} :
    rank m = (quality, specificity) ↔ m.quality = quality ∧ m.specificity = specificity := by
  rw [rank, Prod.mk.injEq]

theorem essencesAt_eq (quality : Quality) (specificity : Nat) (ms : List MediaType) :
    essencesAt quality specificity ms =
      (ms.filter (rank · = (quality, specificity))).map essence := by
  unfold essencesAt
  simp only [rank_eq_iff]

/-- The ranks of the acceptable media types fall. -/
theorem pairwise_rank_acceptable (accept : Option String) :
    (acceptable accept).Pairwise fun a b => rank a = rank b ∨ Outranks (rank a) (rank b) := by
  refine (pairwise_beats_acceptable accept).imp_of_mem fun {a b} ha _ h => ?_
  have hpositive := (mem_positive.mp (mem_acceptable.mp ha)).2
  cases h with
  | quality h => exact .inr (.inl h)
  | specificity hquality h => exact .inr (.inr ⟨hquality, h⟩)
  | order hquality hspecificity _ => exact .inl (Prod.ext (hquality.eq hpositive) hspecificity)

/-- Sorting keeps the declared order of media types that tie. -/
theorem filter_rank_acceptable (accept : Option String) {quality : Quality} (specificity : Nat)
    (hpositive : Quality.zero < quality) :
    (acceptable accept).filter (rank · = (quality, specificity)) =
      (parse accept).filter (rank · = (quality, specificity)) := by
  have hperm : ((acceptable accept).filter (rank · = (quality, specificity))).Perm
      ((parse accept).filter (rank · = (quality, specificity))) := by
    have hclass := (perm_acceptable accept).filter (rank · = (quality, specificity))
    rw [positive, List.filter_filter] at hclass
    refine hclass.trans (.of_eq (List.filter_congr fun m _ => ?_))
    have himplies : rank m = (quality, specificity) → Quality.zero < m.quality :=
      fun hrank => (rank_eq_iff.mp hrank).1 ▸ hpositive
    simpa using himplies
  have hsorted : ((acceptable accept).filter (rank · = (quality, specificity))).Pairwise
      (·.order < ·.order) := by
    refine List.pairwise_filter.mpr ((pairwise_beats_acceptable accept).imp ?_)
    intro a b h ha hb
    obtain ⟨hqualityA, hspecificityA⟩ := rank_eq_iff.mp (of_decide_eq_true ha)
    obtain ⟨hqualityB, hspecificityB⟩ := rank_eq_iff.mp (of_decide_eq_true hb)
    rw [beats_iff, hqualityA, hqualityB, hspecificityA, hspecificityB] at h
    omega
  refine List.Perm.eq_of_pairwise ?_ hsorted ((pairwise_order_parse accept).filter _) hperm
  intro a b _ _ hab hba
  omega

/-- Two headers declare the same acceptable essences at every quality and specificity. -/
def SameEssences (accept accept' : Option String) : Prop :=
  ∀ quality specificity, Quality.zero < quality →
    essencesAt quality specificity (parse accept) = essencesAt quality specificity (parse accept')

/-- Such headers are ranked alike. -/
theorem SameEssences.map_acceptable {accept accept' : Option String}
    (h : SameEssences accept accept') :
    (acceptable accept).map (fun m => (m.essence, rank m)) =
      (acceptable accept').map fun m => (m.essence, rank m) := by
  have hclasses : SameClasses rank essence (acceptable accept) (acceptable accept') := by
    rintro ⟨quality, specificity⟩
    by_cases hpositive : Quality.zero < quality
    · rw [filter_rank_acceptable accept specificity hpositive,
        filter_rank_acceptable accept' specificity hpositive, ← essencesAt_eq, ← essencesAt_eq]
      exact h quality specificity hpositive
    · -- nothing acceptable has a quality that is not positive
      have hnone : ∀ accept : Option String,
          (acceptable accept).filter (rank · = (quality, specificity)) = [] := by
        intro accept
        refine List.filter_eq_nil_iff.mpr fun m hm hrank => hpositive ?_
        rw [← (rank_eq_iff.mp (of_decide_eq_true hrank)).1]
        exact (mem_positive.mp (mem_acceptable.mp hm)).2
      rw [hnone, hnone]
  exact hclasses.map_eq Outranks.asymm (pairwise_rank_acceptable accept)
    (pairwise_rank_acceptable accept')

/-! ## Answers depend on essences only -/

theorem Declared.exists_declares {position : Nat} {pieces : List (List Char)}
    {ms : List MediaType} (h : Declared position pieces ms) {m : MediaType} (hm : m ∈ ms) :
    ∃ piece ∈ pieces, ∃ position, Declares piece position m := by
  induction h with
  | nil => cases hm
  | wellFormed hpiece _ ih =>
      rcases List.mem_cons.mp hm with rfl | hm
      · exact ⟨_, List.mem_cons_self, _, hpiece⟩
      · obtain ⟨piece, hmem, hdeclares⟩ := ih hm
        exact ⟨piece, List.mem_cons_of_mem _ hmem, hdeclares⟩
  | malformed _ _ ih =>
      obtain ⟨piece, hmem, hdeclares⟩ := ih hm
      exact ⟨piece, List.mem_cons_of_mem _ hmem, hdeclares⟩

/-- The two names of a declared media type are the two sides of its essence. -/
theorem Declares.fields_essence {piece : List Char} {position : Nat} {m : MediaType}
    (h : Declares piece position m) :
    fields '/' m.essence.toList = [m.type.toList, m.subtype.toList] := by
  obtain ⟨left, right, numbers, hreads, htype, hsubtype, -⟩ := h.reads
  have hsingle : ∀ {side : List Char}, '/' ∉ side → '/' ∉ lower (strip side) :=
    fun hside hmem => hside (mem_of_mem_trimBy (mem_of_mem_lower (by decide) hmem))
  rw [fields_eq_pair_iff, essence, htype, hsubtype]
  simp only [String.toList_append, String.toList_ofList]
  exact ⟨List.append_assoc _ _ _, hsingle hreads.left_single, hsingle hreads.right_single⟩

theorem fields_essence_of_mem_parse {accept : Option String} {m : MediaType}
    (h : m ∈ parse accept) :
    fields '/' m.essence.toList = [m.type.toList, m.subtype.toList] := by
  cases accept with
  | none => cases h
  | some header =>
      obtain ⟨piece, -, position, hdeclares⟩ := (declared_entriesFrom 0 _).exists_declares h
      exact hdeclares.fields_essence

end Accept

namespace Negotiation

open Accept MediaType

theorem outcomeFor_eq_of_names {a b : MediaType} (htype : a.type = b.type)
    (hsubtype : a.subtype = b.subtype) : outcomeFor a = outcomeFor b := by
  unfold outcomeFor isHtmlCompatible isStructured suffix? essence isWildcardType
    isWildcardSubtype
  rw [htype, hsubtype]

theorem outcomeFor_eq_of_essence {accept accept' : Option String} {a b : MediaType}
    (ha : a ∈ parse accept) (hb : b ∈ parse accept') (h : a.essence = b.essence) :
    outcomeFor a = outcomeFor b := by
  have hnames : [a.type.toList, a.subtype.toList] = [b.type.toList, b.subtype.toList] := by
    rw [← fields_essence_of_mem_parse ha, ← fields_essence_of_mem_parse hb, h]
  obtain ⟨htype, hsubtype⟩ := List.cons.inj hnames
  exact outcomeFor_eq_of_names (String.toList_inj.mp htype)
    (String.toList_inj.mp (List.cons.inj hsubtype).1)

/-- Two headers are ranked alike, position by position, and get the same answers. -/
structure Agree (accept accept' : Option String) : Prop where
  ranking : (acceptable accept).map (fun m => (m.essence, m.quality)) =
    (acceptable accept').map fun m => (m.essence, m.quality)
  answers : ∀ requestedWith, outcome accept requestedWith = outcome accept' requestedWith

theorem agree_of_sameEssences {accept accept' : Option String}
    (h : SameEssences accept accept') : Agree accept accept' := by
  have hranking := h.map_acceptable
  constructor
  · have hforget := congrArg (List.map fun entry => (entry.1, entry.2.1)) hranking
    rw [List.map_map, List.map_map] at hforget
    exact hforget
  · intro requestedWith
    have hmem : ∀ {accept : Option String} {m : MediaType} {rest : List MediaType},
        acceptable accept = m :: rest → m ∈ parse accept := by
      intro accept m rest hacceptable
      refine (mem_positive.mp (mem_acceptable.mp ?_)).1
      rw [hacceptable]
      exact List.mem_cons_self
    unfold outcome
    cases hleft : acceptable accept with
    | nil =>
        rw [hleft] at hranking
        rw [List.map_eq_nil_iff.mp hranking.symm]
    | cons a as =>
        cases hright : acceptable accept' with
        | nil =>
            rw [hleft, hright] at hranking
            cases hranking
        | cons b bs =>
            rw [hleft, hright, List.map_cons, List.map_cons] at hranking
            have hessence := congrArg Prod.fst (List.cons.inj hranking).1
            simp only [outcomeFor_eq_of_essence (hmem hleft) (hmem hright) hessence]

end Negotiation

end SignOut
