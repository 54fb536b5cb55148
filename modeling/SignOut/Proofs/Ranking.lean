import SignOut.Negotiation
import SignOut.Proofs.Declaration

/-!
# The preferred media type

A media type beats another one by a higher quality, with equal qualities by being more specific,
and with equal specificity by an earlier declaration.  The media types of one header are declared
at different positions, so that of any two of them one beats the other.  Sorting the acceptable
ones therefore leaves no choice, and the answer to a request is that for the one that beats all
others.
-/

namespace SignOut

open Numeric

namespace Quality

/-! ## The order of qualities -/

/-- The number zero as a quality. -/
def zero : Quality := ⟨.finite false 0, rfl, full.nonneg⟩

instance : LE Quality := ⟨fun a b => a.value.le b.value = true⟩

instance : LT Quality := ⟨fun a b => a ≤ b ∧ ¬ b ≤ a⟩

/-- Two qualities are the same number. -/
def Same (a b : Quality) : Prop := a ≤ b ∧ b ≤ a

variable {a b : Quality}

theorem le_iff_size_le : a ≤ b ↔ a.size ≤ b.size := le_value_iff

theorem lt_iff_size_lt : a < b ↔ a.size < b.size := by
  have hlt : a < b ↔ a ≤ b ∧ ¬ b ≤ a := Iff.rfl
  rw [hlt, le_iff_size_le, le_iff_size_le]
  omega

theorem same_iff_size_eq : a.Same b ↔ a.size = b.size := by
  unfold Same
  rw [le_iff_size_le, le_iff_size_le]
  omega

instance (a b : Quality) : Decidable (a < b) := decidable_of_iff _ lt_iff_size_lt.symm

instance (a b : Quality) : Decidable (a.Same b) := decidable_of_iff _ same_iff_size_eq.symm

theorem isPositive_eq (a : Quality) : a.isPositive = decide (zero < a) :=
  decide_eq_decide.mpr (@lt_iff_size_lt zero a).symm

/-- Positive qualities that are the same number are the same quality. -/
theorem Same.eq (h : a.Same b) (hpos : zero < a) : a = b :=
  eq_of_size_eq (lt_iff_size_lt.mp hpos) (same_iff_size_eq.mp h)

end Quality

namespace MediaType

/-! ## Beating -/

/-- The first media type is preferred to the second: its quality is higher; or the qualities are the
same and it is more specific; or it agrees in both and is declared earlier. -/
inductive Beats (a b : MediaType) : Prop
  | quality (h : b.quality < a.quality)
  | specificity (hquality : a.quality.Same b.quality) (h : a.specificity < b.specificity)
  | order (hquality : a.quality.Same b.quality) (hspecificity : a.specificity = b.specificity)
      (h : a.order < b.order)

variable {a b c : MediaType}

/-- Beating in terms of exact counts. -/
theorem beats_iff : Beats a b ↔
    b.quality.size < a.quality.size ∨ a.quality.size = b.quality.size ∧
      (a.specificity < b.specificity ∨ a.specificity = b.specificity ∧ a.order < b.order) := by
  constructor
  · intro h
    cases h with
    | quality h => exact .inl (Quality.lt_iff_size_lt.mp h)
    | specificity hquality h => exact .inr ⟨Quality.same_iff_size_eq.mp hquality, .inl h⟩
    | order hquality hspecificity h =>
        exact .inr ⟨Quality.same_iff_size_eq.mp hquality, .inr ⟨hspecificity, h⟩⟩
  · rintro (h | ⟨hquality, h | ⟨hspecificity, h⟩⟩)
    · exact .quality (Quality.lt_iff_size_lt.mpr h)
    · exact .specificity (Quality.same_iff_size_eq.mpr hquality) h
    · exact .order (Quality.same_iff_size_eq.mpr hquality) hspecificity h

/-- The key compares as less exactly for a media type that beats the other. -/
theorem beats_iff_compareKey : Beats a b ↔ compareKey a b = .lt := by
  unfold compareKey
  rw [beats_iff, Ordering.then_eq_lt, Ordering.then_eq_lt, Int.compare_eq_lt, Int.compare_eq_eq,
    Nat.compare_eq_lt, Nat.compare_eq_eq, Int.compare_eq_lt,
    eq_comm (a := a.quality.size)]

instance (a b : MediaType) : Decidable (Beats a b) := decidable_of_iff _ beats_iff_compareKey.symm

theorem Beats.asymm (h : Beats a b) : ¬ Beats b a := by
  rw [beats_iff] at h ⊢
  omega

theorem swap_compareKey (a b : MediaType) : (compareKey a b).swap = compareKey b a := by
  unfold compareKey
  rw [Ordering.swap_then, Ordering.swap_then, Int.compare_swap, Nat.compare_swap,
    Int.compare_swap]

/-- A media type ranks before another one that does not beat it. -/
theorem ranksBefore_iff : ranksBefore a b = true ↔ ¬ Beats b a := by
  rw [beats_iff_compareKey, ← swap_compareKey, ranksBefore]
  cases compareKey a b <;> simp

theorem ranksBefore_trans (a b c : MediaType) (hab : ranksBefore a b) (hbc : ranksBefore b c) :
    ranksBefore a c := by
  rw [ranksBefore_iff, beats_iff] at hab hbc ⊢
  omega

theorem ranksBefore_total (a b : MediaType) : ranksBefore a b || ranksBefore b a := by
  rw [Bool.or_eq_true, ranksBefore_iff, ranksBefore_iff, beats_iff, beats_iff]
  omega

/-- Of two media types that are declared at different positions, one beats the other. -/
theorem beats_of_ranksBefore (h : ranksBefore a b) (horder : a.order ≠ b.order) : Beats a b := by
  rw [ranksBefore_iff, beats_iff] at h
  rw [beats_iff]
  omega

end MediaType

namespace Accept

/-! ## The arrangement of the acceptable media types -/

open MediaType

/-- What pieces declare is declared at ascending positions. -/
theorem Declared.pairwise_order {position : Nat} {pieces : List (List Char)} {ms : List MediaType}
    (h : Declared position pieces ms) :
    ms.Pairwise (·.order < ·.order) ∧ ∀ m ∈ ms, (position : Int) ≤ m.order := by
  induction h with
  | nil => exact ⟨.nil, fun m hm => absurd hm List.not_mem_nil⟩
  | wellFormed hpiece _ ih =>
      have horder := hpiece.order
      constructor
      · refine .cons (fun m hm => ?_) ih.1
        have := ih.2 m hm
        omega
      · intro m hm
        cases hm with
        | head => omega
        | tail _ hm =>
            have := ih.2 m hm
            omega
  | malformed _ _ ih =>
      refine ⟨ih.1, fun m hm => ?_⟩
      have := ih.2 m hm
      omega

theorem pairwise_order_parse (accept : Option String) :
    (parse accept).Pairwise (·.order < ·.order) := by
  cases accept with
  | none => exact .nil
  | some header => exact (declared_entriesFrom 0 _).pairwise_order.1

/-- The media types of a header with a positive quality, as they are declared. -/
def positive (accept : Option String) : List MediaType :=
  (parse accept).filter fun m => Quality.zero < m.quality

theorem mem_positive {accept : Option String} {m : MediaType} :
    m ∈ positive accept ↔ m ∈ parse accept ∧ Quality.zero < m.quality := by
  rw [positive, List.mem_filter, decide_eq_true_eq]

theorem acceptable_eq (accept : Option String) :
    acceptable accept = (positive accept).mergeSort ranksBefore := by
  unfold acceptable positive
  simp only [Quality.isPositive_eq]

theorem perm_acceptable (accept : Option String) : (acceptable accept).Perm (positive accept) := by
  rw [acceptable_eq]
  exact List.mergeSort_perm _ _

theorem mem_acceptable {accept : Option String} {m : MediaType} :
    m ∈ acceptable accept ↔ m ∈ positive accept :=
  (perm_acceptable accept).mem_iff

/-- Every acceptable media type beats the ones behind it. -/
theorem pairwise_beats_acceptable (accept : Option String) :
    (acceptable accept).Pairwise Beats := by
  have hranks : (acceptable accept).Pairwise fun a b => ranksBefore a b := by
    rw [acceptable_eq]
    exact List.pairwise_mergeSort ranksBefore_trans ranksBefore_total _
  have hpositions : (acceptable accept).Pairwise fun a b => a.order ≠ b.order :=
    (((pairwise_order_parse accept).filter _).imp Int.ne_of_lt).perm
      (perm_acceptable accept).symm Ne.symm
  exact hranks.imp₂ (fun a b => beats_of_ranksBefore) hpositions

/-- There is one arrangement of the acceptable media types in which every one beats the ones behind
it. -/
theorem eq_acceptable_iff {accept : Option String} {ms : List MediaType} :
    ms = acceptable accept ↔ ms.Perm (positive accept) ∧ ms.Pairwise Beats := by
  constructor
  · rintro rfl
    exact ⟨perm_acceptable accept, pairwise_beats_acceptable accept⟩
  · rintro ⟨hperm, hbeats⟩
    refine List.Perm.eq_of_pairwise ?_ hbeats (pairwise_beats_acceptable accept)
      (hperm.trans (perm_acceptable accept).symm)
    exact fun a b _ _ hab hba => absurd hba hab.asymm

/-- The acceptable media type of a header that beats every other one. -/
structure Wins (accept : Option String) (m : MediaType) : Prop where
  mem : m ∈ positive accept
  beats : ∀ other ∈ positive accept, other ≠ m → Beats m other

/-- Two winners would beat each other. -/
theorem Wins.unique {accept : Option String} {a b : MediaType} (ha : Wins accept a)
    (hb : Wins accept b) : a = b :=
  Classical.byContradiction fun hne =>
    (ha.beats b hb.mem (Ne.symm hne)).asymm (hb.beats a ha.mem hne)

theorem wins_head {accept : Option String} {m : MediaType} {rest : List MediaType}
    (h : acceptable accept = m :: rest) : Wins accept m := by
  have hbeats := pairwise_beats_acceptable accept
  rw [h] at hbeats
  constructor
  · rw [← mem_acceptable, h]
    exact List.mem_cons_self
  · intro other hother hne
    rw [← mem_acceptable, h] at hother
    exact List.rel_of_pairwise_cons hbeats ((List.mem_cons.mp hother).resolve_left hne)

end Accept

namespace Negotiation

open Accept MediaType

/-! ## The answer to a request -/

theorem outcome_of_isScripted {accept requestedWith : Option String}
    (h : isScripted requestedWith = true) : outcome accept requestedWith = .noContent :=
  if_pos h

theorem outcome_of_wins {accept requestedWith : Option String} {m : MediaType}
    (hscripted : isScripted requestedWith = false) (h : Wins accept m) :
    outcome accept requestedWith = outcomeFor m := by
  unfold outcome
  rw [hscripted]
  split
  · contradiction
  · split
    · rename_i hnone
      have hm := mem_acceptable.mpr h.mem
      rw [hnone] at hm
      cases hm
    · rename_i hsome
      rw [(wins_head hsome).unique h]

theorem outcome_of_positive_eq_nil {accept requestedWith : Option String}
    (hscripted : isScripted requestedWith = false) (h : positive accept = []) :
    outcome accept requestedWith = .redirect := by
  have hnone : acceptable accept = [] := (h ▸ perm_acceptable accept).eq_nil
  unfold outcome
  rw [hscripted, hnone]
  rfl

theorem exists_wins {accept : Option String} (h : positive accept ≠ []) :
    ∃ winner, Wins accept winner := by
  cases hacceptable : acceptable accept with
  | nil =>
      have hperm := perm_acceptable accept
      rw [hacceptable] at hperm
      exact absurd hperm.symm.eq_nil h
  | cons winner rest => exact ⟨winner, wins_head hacceptable⟩

/-- The acceptable media types are those of positive quality in the only arrangement in which each
one beats the ones behind it.  A script gets the empty answer, a request that accepts nothing is
redirected, and any other one gets the answer for the media type that beats all others. -/
theorem outcome_ranked (accept requestedWith : Option String) :
    (∀ ms, ms = acceptable accept ↔ ms.Perm (positive accept) ∧ ms.Pairwise Beats) ∧
    (isScripted requestedWith = true → outcome accept requestedWith = .noContent) ∧
    (isScripted requestedWith = false → positive accept = [] →
      outcome accept requestedWith = .redirect) ∧
    (isScripted requestedWith = false → positive accept ≠ [] →
      ∃ winner, Wins accept winner ∧ (∀ m, Wins accept m → m = winner) ∧
        outcome accept requestedWith = outcomeFor winner) := by
  refine ⟨fun ms => eq_acceptable_iff, outcome_of_isScripted, outcome_of_positive_eq_nil, ?_⟩
  intro hscripted hpositive
  obtain ⟨winner, hwins⟩ := exists_wins hpositive
  exact ⟨winner, hwins, fun m hm => hm.unique hwins, outcome_of_wins hscripted hwins⟩

/-- Of two equal qualities the concrete type wins over the wildcard that is declared before it. -/
theorem outcome_ranked_sample :
    (isScripted none = false ∧ positive (some "text/html;q=0.5, text/*, application/json") ≠ [] ∧
      ∃ winner, Wins (some "text/html;q=0.5, text/*, application/json") winner ∧
        winner.essence = "application/json" ∧
        outcome (some "text/html;q=0.5, text/*, application/json") none = outcomeFor winner) ∧
    (isScripted (some " XMLHttpRequest ") = true ∧
      outcome (some "text/html") (some " XMLHttpRequest ") = .noContent) ∧
    (positive (some "application/json;q=0") = [] ∧
      outcome (some "application/json;q=0") none = .redirect) := by
  have hbrowser : isScripted none = false := rfl
  have hscript : isScripted (some " XMLHttpRequest ") = true := by decide +kernel
  have hpositive : positive (some "text/html;q=0.5, text/*, application/json") ≠ [] := by
    decide +kernel
  have hnothing : positive (some "application/json;q=0") = [] := by decide +kernel
  -- every positive entry but the last is beaten by another one
  have hbest : ∀ m ∈ positive (some "text/html;q=0.5, text/*, application/json"),
      (∀ other ∈ positive (some "text/html;q=0.5, text/*, application/json"),
        other ≠ m → Beats m other) → m.essence = "application/json" := by
    decide +kernel
  obtain ⟨winner, hwins, -, hanswer⟩ := (outcome_ranked _ none).2.2.2 hbrowser hpositive
  exact ⟨⟨hbrowser, hpositive, winner, hwins, hbest winner hwins.mem hwins.beats, hanswer⟩,
    ⟨hscript, (outcome_ranked _ _).2.1 hscript⟩,
    ⟨hnothing, (outcome_ranked _ _).2.2.1 hbrowser hnothing⟩⟩

end Negotiation

end SignOut
