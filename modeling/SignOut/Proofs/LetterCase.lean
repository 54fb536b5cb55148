import SignOut.Proofs.Declaration

/-!
# Basic letters in either case

Nothing that is read from a piece of an Accept header depends on the case of the letters `A` to `Z`.
Writing them small commutes with every cut and every trim, because separators and blanks are no
letters, and it changes neither the lower-case form of a name nor the number that a text denotes.
-/

namespace SignOut

open Numeric Text

namespace Numeric

/-! ## Small forms of basic letters -/

/-- The capital letters of the basic script. -/
def capitals : List Char :=
  ['A', 'B', 'C', 'D', 'E', 'F', 'G', 'H', 'I', 'J', 'K', 'L', 'M',
   'N', 'O', 'P', 'Q', 'R', 'S', 'T', 'U', 'V', 'W', 'X', 'Y', 'Z']

theorem mem_capitals {c : Char} (hfirst : 'A' ≤ c) (hlast : c ≤ 'Z') : c ∈ capitals := by
  have hlow : 65 ≤ c.toNat := hfirst
  have hhigh : c.toNat ≤ 90 := hlast
  have hall : ∀ i : Fin 26, Char.ofNat (65 + i) ∈ capitals := by decide
  have hmem := hall ⟨c.toNat - 65, by omega⟩
  have hsum : 65 + (c.toNat - 65) = c.toNat := by omega
  simp only [hsum, Char.ofNat_toNat] at hmem
  exact hmem

/-- What holds of every character that is its own small form, and of the capital letters, holds of
every character beside its small form. -/
theorem lowerBasic_cases {P : Char → Char → Prop} [∀ c d, Decidable (P c d)]
    (hsame : ∀ c, lowerBasic c = c → P c c)
    (hcapital : (capitals.all fun c => P c (lowerBasic c)) = true) (c : Char) :
    P c (lowerBasic c) := by
  by_cases hc : 'A' ≤ c ∧ c ≤ 'Z'
  · exact of_decide_eq_true (List.all_eq_true.mp hcapital c (mem_capitals hc.1 hc.2))
  · have hkeep : lowerBasic c = c := if_neg hc
    rw [hkeep]
    exact hsame c hkeep

theorem lowerBasic_lowerBasic (c : Char) : lowerBasic (lowerBasic c) = lowerBasic c :=
  lowerBasic_cases (P := fun c small => lowerBasic small = lowerBasic c) (fun _ _ => rfl)
    (by decide) c

/-- A character that is no letter is the small form of itself only. -/
theorem lowerBasic_eq_iff {d : Char}
    (hd : (capitals.all fun c => decide (lowerBasic c = d ↔ c = d)) = true) (c : Char) :
    lowerBasic c = d ↔ c = d :=
  lowerBasic_cases (P := fun c small => small = d ↔ c = d) (fun _ _ => Iff.rfl) hd c

/-- What does not tell capital letters from small ones does not tell a character from its small
form. -/
theorem apply_lowerBasic {α : Type} [DecidableEq α] {p : Char → α}
    (hp : (capitals.all fun c => p (lowerBasic c) = p c) = true) (c : Char) :
    p (lowerBasic c) = p c :=
  lowerBasic_cases (P := fun c small => p small = p c) (fun _ _ => rfl) hp c

theorem comp_lowerBasic {α : Type} [DecidableEq α] {p : Char → α}
    (hp : (capitals.all fun c => p (lowerBasic c) = p c) = true) : p ∘ lowerBasic = p :=
  funext (apply_lowerBasic hp)

theorem isDigit_comp_lowerBasic : isDigit ∘ lowerBasic = isDigit :=
  comp_lowerBasic (by decide)

theorem map_lowerBasic_of_all_isDigit {cs : List Char} (h : cs.all isDigit = true) :
    cs.map lowerBasic = cs := by
  have hdigit : ∀ c, isDigit c = true → lowerBasic c = c :=
    lowerBasic_cases (P := fun c small => isDigit c = true → small = c) (fun _ _ _ => rfl)
      (by decide)
  refine (List.map_congr_left fun c hc => ?_).trans (List.map_id cs)
  exact hdigit c (List.all_eq_true.mp h c hc)

theorem takeWhile_isDigit_map_lowerBasic (cs : List Char) :
    (cs.map lowerBasic).takeWhile isDigit = cs.takeWhile isDigit := by
  rw [List.takeWhile_map, isDigit_comp_lowerBasic]
  exact map_lowerBasic_of_all_isDigit List.all_takeWhile

theorem dropWhile_isDigit_map_lowerBasic (cs : List Char) :
    (cs.map lowerBasic).dropWhile isDigit = (cs.dropWhile isDigit).map lowerBasic := by
  rw [List.dropWhile_map, isDigit_comp_lowerBasic]

/-! ## Numbers -/

theorem basicForm_lowerBasic (c : Char) : basicForm (lowerBasic c) = lowerBasic (basicForm c) := by
  refine lowerBasic_cases (P := fun c small => basicForm small = lowerBasic (basicForm c)) ?_
    (by decide) c
  intro c hc
  unfold basicForm
  split
  · exact hc.symm
  split
  · rfl
  split
  · rename_i d hd
    have hall : ∀ d < 10, Char.ofNat (48 + d) = lowerBasic (Char.ofNat (48 + d)) := by decide
    exact hall d (lt_ten_of_digitAbove hd)
  · rfl

theorem dropUnderscores_map_lowerBasic (before : Bool) (cs : List Char) :
    dropUnderscores before (cs.map lowerBasic) =
      (dropUnderscores before cs).map (List.map lowerBasic) := by
  induction cs generalizing before with
  | nil => rfl
  | cons c rest ih =>
      have hdigit : ∀ d, isDigit (lowerBasic d) = isDigit d := congrFun isDigit_comp_lowerBasic
      have hmark := lowerBasic_eq_iff (d := '_') (by decide) c
      rw [List.map_cons, dropUnderscores.eq_def, dropUnderscores.eq_def before (c :: rest)]
      simp only [hdigit, ih]
      by_cases hc : c = '_'
      · rw [if_pos hc, if_pos (hmark.mpr hc)]
        cases rest with
        | nil => rfl
        | cons d more =>
            simp only [List.map_cons, hdigit]
            split <;> rfl
      · rw [if_neg hc, if_neg (mt hmark.mp hc), Option.map_map, Option.map_map]
        rfl

theorem readSign_map_lowerBasic (cs : List Char) :
    readSign (cs.map lowerBasic) = ((readSign cs).1, (readSign cs).2.map lowerBasic) := by
  have hplain : ∀ c rest, c ≠ '-' → c ≠ '+' → readSign (c :: rest) = (false, c :: rest) := by
    intro c rest hminus hplus
    unfold readSign
    split
    · rename_i h
      exact absurd (List.cons.inj h).1 hminus
    · rename_i h
      exact absurd (List.cons.inj h).1 hplus
    · rfl
  cases cs with
  | nil => rfl
  | cons c rest =>
      by_cases hminus : c = '-'
      · rw [hminus]
        rfl
      by_cases hplus : c = '+'
      · rw [hplus]
        rfl
      rw [hplain c rest hminus hplus, List.map_cons, hplain _ _
        (mt (lowerBasic_eq_iff (by decide) c).mp hminus)
        (mt (lowerBasic_eq_iff (by decide) c).mp hplus)]

theorem readExponent?_map_lowerBasic (cs : List Char) :
    readExponent? (cs.map lowerBasic) = readExponent? cs := by
  cases cs with
  | nil => rfl
  | cons mark rest =>
      have hmark : (lowerBasic mark = 'e' ∨ lowerBasic mark = 'E') ↔ (mark = 'e' ∨ mark = 'E') :=
        lowerBasic_cases (P := fun c small => (small = 'e' ∨ small = 'E') ↔ (c = 'e' ∨ c = 'E'))
          (fun _ _ => Iff.rfl) (by decide) mark
      have hall : ((readSign rest).2.map lowerBasic).all isDigit = (readSign rest).2.all isDigit := by
        rw [List.all_map, isDigit_comp_lowerBasic]
      rw [List.map_cons, readExponent?, readExponent?, readSign_map_lowerBasic]
      simp only [hmark, hall, ne_eq, List.map_eq_nil_iff]
      by_cases hdigits : (readSign rest).2.all isDigit = true
      · rw [map_lowerBasic_of_all_isDigit hdigits]
      · have hnone : ¬ (¬ (readSign rest).2 = [] ∧ (readSign rest).2.all isDigit = true) :=
          fun h => hdigits h.2
        rw [if_neg hnone, if_neg hnone]

/-- The digits behind a decimal point, and what follows them. -/
def cutFraction (rest : List Char) : List Char × List Char :=
  match rest with
  | '.' :: more => (more.takeWhile isDigit, more.dropWhile isDigit)
  | _ => ([], rest)

theorem readDecimal?_eq (negative : Bool) (cs : List Char) :
    readDecimal? negative cs =
      if cs.takeWhile isDigit = [] ∧ (cutFraction (cs.dropWhile isDigit)).1 = [] then none
      else (readExponent? (cutFraction (cs.dropWhile isDigit)).2).map fun exponent =>
        .ofDecimal negative
          (digitsValue (cs.takeWhile isDigit ++ (cutFraction (cs.dropWhile isDigit)).1))
          (exponent - (cutFraction (cs.dropWhile isDigit)).1.length) := by
  unfold readDecimal? cutFraction
  simp only [Option.map_eq_bind]
  rfl

theorem cutFraction_map_lowerBasic (cs : List Char) :
    cutFraction (cs.map lowerBasic) = ((cutFraction cs).1, (cutFraction cs).2.map lowerBasic) := by
  have hpointed : ∀ more, cutFraction ('.' :: more) =
      (more.takeWhile isDigit, more.dropWhile isDigit) := fun _ => rfl
  have hplain : ∀ c rest, c ≠ '.' → cutFraction (c :: rest) = ([], c :: rest) := by
    intro c rest hpoint
    unfold cutFraction
    split
    · rename_i h
      exact absurd (List.cons.inj h).1 hpoint
    · rfl
  cases cs with
  | nil => rfl
  | cons c rest =>
      by_cases hpoint : c = '.'
      · have hkeep : lowerBasic '.' = '.' := by decide
        rw [hpoint, List.map_cons, hkeep, hpointed, hpointed, takeWhile_isDigit_map_lowerBasic,
          dropWhile_isDigit_map_lowerBasic]
      · rw [hplain c rest hpoint, List.map_cons,
          hplain _ _ (mt (lowerBasic_eq_iff (by decide) c).mp hpoint)]

theorem readDecimal?_map_lowerBasic (negative : Bool) (cs : List Char) :
    readDecimal? negative (cs.map lowerBasic) = readDecimal? negative cs := by
  rw [readDecimal?_eq, readDecimal?_eq, takeWhile_isDigit_map_lowerBasic,
    dropWhile_isDigit_map_lowerBasic, cutFraction_map_lowerBasic, readExponent?_map_lowerBasic]

/-- The case of basic letters in a text does not matter to the number that it denotes. -/
theorem ofText?_map_lowerBasic (cs : List Char) :
    Binary64.ofText? (cs.map lowerBasic) = Binary64.ofText? cs := by
  have hbasic : (cs.map lowerBasic).all (fun c => c.toNat < 0x80) =
      cs.all fun c => c.toNat < 0x80 := by
    rw [List.all_map, comp_lowerBasic (by decide)]
  have hform : (cs.map lowerBasic).map basicForm = (cs.map basicForm).map lowerBasic := by
    rw [List.map_map, List.map_map]
    exact List.map_congr_left fun c _ => basicForm_lowerBasic c
  have hspacing : isSpacing ∘ lowerBasic = isSpacing := comp_lowerBasic (by decide)
  unfold Binary64.ofText?
  rw [hbasic, hform, ← apply_ite (List.map lowerBasic)]
  simp only [trimBy_map hspacing, dropUnderscores_map_lowerBasic]
  cases dropUnderscores false (trimBy isSpacing _) with
  | none => rfl
  | some plain =>
      have hword : ((readSign plain).2.map lowerBasic).map lowerBasic =
          (readSign plain).2.map lowerBasic := by
        rw [List.map_map]
        exact List.map_congr_left fun c _ => lowerBasic_lowerBasic c
      simp only [Option.map_some, Option.bind_eq_bind, Option.bind_some, readSign_map_lowerBasic,
        hword, readDecimal?_map_lowerBasic]

end Numeric

namespace Text

/-! ## Names -/

theorem sigmaNeighbour_lowerBasic (c : Char) :
    SigmaNeighbour.of (lowerBasic c) = SigmaNeighbour.of c :=
  apply_lowerBasic (p := SigmaNeighbour.of) (by decide) c

theorem startsWithLetter_map_lowerBasic (cs : List Char) :
    startsWithLetter (cs.map lowerBasic) = startsWithLetter cs := by
  induction cs with
  | nil => rfl
  | cons c rest ih =>
      rw [List.map_cons, startsWithLetter, startsWithLetter, sigmaNeighbour_lowerBasic, ih]

theorem lowerAfter_map_lowerBasic (before : Bool) (cs : List Char) :
    lowerAfter before (cs.map lowerBasic) = lowerAfter before cs := by
  induction cs generalizing before with
  | nil => rfl
  | cons c rest ih =>
      have hsigma := lowerBasic_eq_iff (d := 'Σ') (by decide) c
      have hbehind : letterBehind before (lowerBasic c) = letterBehind before c := by
        unfold letterBehind
        rw [sigmaNeighbour_lowerBasic]
      have hform : lowerChar (lowerBasic c) = lowerChar c :=
        apply_lowerBasic (p := lowerChar) (by decide) c
      rw [List.map_cons, lowerAfter, lowerAfter, startsWithLetter_map_lowerBasic, hbehind, hform,
        ih]
      simp only [hsigma]

/-- The case of basic letters in a name does not matter to its lower-case form. -/
theorem lower_map_lowerBasic (cs : List Char) : lower (cs.map lowerBasic) = lower cs :=
  lowerAfter_map_lowerBasic false cs

theorem strip_map_lowerBasic (cs : List Char) :
    strip (cs.map lowerBasic) = (strip cs).map lowerBasic :=
  trimBy_map (comp_lowerBasic (by decide)) cs

end Text

namespace Accept

/-! ## Pieces -/

theorem ne_comp_lowerBasic {sep : Char} (hsep : ∀ c, lowerBasic c = sep ↔ c = sep) :
    (fun c => decide (c ≠ sep)) ∘ lowerBasic = fun c => decide (c ≠ sep) :=
  funext fun c => decide_eq_decide.mpr (not_congr (hsep c))

theorem essenceText_map_lowerBasic (piece : List Char) :
    essenceText (piece.map lowerBasic) = (essenceText piece).map lowerBasic := by
  have hwildcard : ∀ cs : List Char, cs.map lowerBasic = ['*'] ↔ cs = ['*'] := by
    intro cs
    simp only [List.map_eq_singleton_iff, lowerBasic_eq_iff (d := '*') (by decide),
      exists_eq_right]
  unfold essenceText expandWildcard
  rw [List.takeWhile_map, ne_comp_lowerBasic (lowerBasic_eq_iff (by decide)), strip_map_lowerBasic]
  simp only [hwildcard]
  split <;> rfl

theorem parameterTexts_map_lowerBasic (piece : List Char) :
    parameterTexts (piece.map lowerBasic) = (parameterTexts piece).map (List.map lowerBasic) := by
  have hstrip : strip ∘ List.map lowerBasic = List.map lowerBasic ∘ strip :=
    funext strip_map_lowerBasic
  unfold parameterTexts
  rw [fields_map (lowerBasic_eq_iff (by decide)), ← List.map_tail, List.map_map, hstrip,
    ← List.map_map, List.filter_map]
  refine congrArg (List.map _) (List.filter_congr fun part _ => ?_)
  simp

theorem parameterName_map_lowerBasic (part : List Char) :
    parameterName (part.map lowerBasic) = parameterName part := by
  unfold parameterName
  rw [List.takeWhile_map, ne_comp_lowerBasic (lowerBasic_eq_iff (by decide)), strip_map_lowerBasic,
    lower_map_lowerBasic]

theorem parameterValue_map_lowerBasic (part : List Char) :
    parameterValue (part.map lowerBasic) = (parameterValue part).map lowerBasic := by
  unfold parameterValue
  rw [List.dropWhile_map, ne_comp_lowerBasic (lowerBasic_eq_iff (by decide)), ← List.map_tail,
    strip_map_lowerBasic, trimBy_map (comp_lowerBasic (by decide))]

end Accept

end SignOut
