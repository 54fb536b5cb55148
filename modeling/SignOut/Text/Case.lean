import SignOut.Text.CaseTable

/-!
# Letter case

Full case mappings.  A character may map to several: `ß` becomes `SS`, and `İ` becomes `i`
with a combining dot.  A capital sigma becomes a final sigma exactly when a cased letter comes
before it and none after it, ignorable characters aside.
-/

namespace SignOut.Text

/-- What a character is to a sigma beside it. -/
inductive SigmaNeighbour where
  | ignorable
  | letter
  | other
deriving DecidableEq, Repr

/-- The class of a character beside a sigma. -/
def SigmaNeighbour.of (c : Char) : SigmaNeighbour :=
  if inRanges casedRanges c.toNat then .letter
  else if inRanges caseIgnorableRanges c.toNat then .ignorable
  else .other

/-- Whether the first character that counts is a letter. -/
def startsWithLetter : List Char → Bool
  | [] => false
  | c :: rest =>
      match SigmaNeighbour.of c with
      | .ignorable => startsWithLetter rest
      | .letter => true
      | .other => false

/-- Whether a letter still stands before the next character once `c` has been passed. -/
def letterBehind (before : Bool) (c : Char) : Bool :=
  match SigmaNeighbour.of c with
  | .ignorable => before
  | .letter => true
  | .other => false

/-- The lower-case form of a character other than a capital sigma. -/
def lowerChar (c : Char) : List Char :=
  if c = 'İ' then ['i', '\u0307']
  else [((caseImage lowerRuns c.toNat).map Char.ofNat).getD c]

/-- Lower-case a text; `before` says whether a letter that counts stands before it. -/
def lowerAfter : Bool → List Char → List Char
  | _, [] => []
  | before, c :: rest =>
      let here :=
        if c = 'Σ' then [if before && !startsWithLetter rest then 'ς' else 'σ']
        else lowerChar c
      here ++ lowerAfter (letterBehind before c) rest

/-- The lower-case form of a text. -/
def lower (cs : List Char) : List Char :=
  lowerAfter false cs

/-- The upper-case form of a character. -/
def upperChar (c : Char) : List Char :=
  match upperExpansions.lookup c.toNat with
  | some expansion => expansion.map Char.ofNat
  | none => [((caseImage upperRuns c.toNat).map Char.ofNat).getD c]

/-- The upper-case form of a text. -/
def upper (cs : List Char) : List Char :=
  cs.flatMap upperChar

/-- The lower-case form of a string. -/
def lowerText (s : String) : String :=
  String.ofList (lower s.toList)

/-- The upper-case form of a string. -/
def upperText (s : String) : String :=
  String.ofList (upper s.toList)

/-- The code points from the first to the last one of a run are mapped into one range. -/
theorem exists_run_of_caseImage {runs : List CaseRun} {n image : Nat}
    (h : caseImage runs n = some image) :
    ∃ run ∈ runs, run.image ≤ image ∧ image ≤ run.image + (run.last - run.first) := by
  induction runs with
  | nil => cases h
  | cons run rest ih =>
      unfold caseImage at h
      split at h
      · cases h
      split at h
      · rename_i hinside
        cases h
        simp only [Bool.and_eq_true, decide_eq_true_eq] at hinside
        exact ⟨run, List.mem_cons_self, by omega, by omega⟩
      · obtain ⟨other, hmem, hbounds⟩ := ih h
        exact ⟨other, List.mem_cons_of_mem _ hmem, hbounds⟩

/-- The lower-case forms of single characters start at the small letter `a`, and all of them are
characters. -/
theorem lowerRuns_bounds : ∀ run ∈ lowerRuns, 0x61 ≤ run.image ∧
    (run.image + (run.last - run.first) < 0xD800 ∨
      0xE000 ≤ run.image ∧ run.image + (run.last - run.first) < 0x110000) := by
  decide +kernel

/-- A character of a lower-case form is one that was there or is no basic character below the small
letters. -/
theorem mem_lowerChar {c d : Char} (h : d ∈ lowerChar c) : d = c ∨ 0x61 ≤ d.toNat := by
  unfold lowerChar at h
  split at h
  · simp only [List.mem_cons, List.not_mem_nil, or_false] at h
    rcases h with rfl | rfl
    · exact Or.inr (by decide)
    · exact Or.inr (by decide)
  · rw [List.mem_singleton] at h
    cases himage : caseImage lowerRuns c.toNat with
    | none =>
        rw [himage] at h
        exact Or.inl h
    | some image =>
        obtain ⟨run, hmem, hlow, hhigh⟩ := exists_run_of_caseImage himage
        obtain ⟨hsmall, hvalid⟩ := lowerRuns_bounds run hmem
        have hchar : image.isValidChar := by
          unfold Nat.isValidChar
          omega
        have hnat : (Char.ofNat image).toNat = image := by
          rw [Char.ofNat, dif_pos hchar]
          rfl
        rw [himage] at h
        rw [show d = Char.ofNat image from h, hnat]
        exact Or.inr (by omega)

theorem mem_lowerAfter {before : Bool} {cs : List Char} {d : Char} (h : d ∈ lowerAfter before cs) :
    d ∈ cs ∨ 0x61 ≤ d.toNat := by
  induction cs generalizing before with
  | nil => cases h
  | cons c rest ih =>
      simp only [lowerAfter, List.mem_append] at h
      rcases h with hhere | hrest
      · split at hhere
        · -- both forms of a sigma lie far behind the basic letters
          split at hhere
          · rw [List.mem_singleton.mp hhere]
            exact Or.inr (by decide)
          · rw [List.mem_singleton.mp hhere]
            exact Or.inr (by decide)
        · rcases mem_lowerChar hhere with rfl | hsmall
          · exact Or.inl List.mem_cons_self
          · exact Or.inr hsmall
      · rcases ih hrest with hmem | hsmall
        · exact Or.inl (List.mem_cons_of_mem _ hmem)
        · exact Or.inr hsmall

/-- Lower case brings in no basic character below the small letters, so no separator and no
wildcard. -/
theorem mem_of_mem_lower {cs : List Char} {d : Char} (hd : d.toNat < 0x61) (h : d ∈ lower cs) :
    d ∈ cs := by
  rcases mem_lowerAfter h with hmem | hsmall
  · exact hmem
  · omega

/-- Every character has a lower-case form. -/
theorem length_le_length_lowerAfter (before : Bool) (cs : List Char) :
    cs.length ≤ (lowerAfter before cs).length := by
  induction cs generalizing before with
  | nil => exact Nat.le_refl _
  | cons c rest ih =>
      have hrest := ih (letterBehind before c)
      have hhere : 1 ≤ (if c = 'Σ' then [if before && !startsWithLetter rest then 'ς' else 'σ']
          else lowerChar c).length := by
        unfold lowerChar
        split
        · exact Nat.le_refl _
        · split <;> simp
      simp only [lowerAfter, List.length_append, List.length_cons]
      omega

theorem lower_eq_nil_iff {cs : List Char} : lower cs = [] ↔ cs = [] := by
  constructor
  · intro h
    have hlength := length_le_length_lowerAfter false cs
    rw [show lowerAfter false cs = [] from h] at hlength
    exact List.length_eq_zero_iff.mp (Nat.le_zero.mp hlength)
  · rintro rfl
    rfl

/-- Only the wildcard itself becomes a wildcard in lower case. -/
theorem lower_eq_wildcard_iff {cs : List Char} : lower cs = ['*'] ↔ cs = ['*'] := by
  constructor
  · intro h
    have hmem : '*' ∈ cs := mem_of_mem_lower (by decide) (by rw [h]; exact List.mem_singleton_self _)
    have hlength := length_le_length_lowerAfter false cs
    rw [show lowerAfter false cs = ['*'] from h] at hlength
    match cs, hmem, hlength with
    | [c], hmem, _ => rw [List.mem_singleton.mp hmem]
    | _ :: _ :: _, _, hlength => simp at hlength
  · rintro rfl
    decide

end SignOut.Text
