import SignOut.Text.CodeRange

/-!
# Blank characters

The blanks that surround a value and are dropped from both of its ends: the white space of
Unicode together with the four separators U+001C to U+001F.  A zero-width space and a byte
order mark are no blanks.
-/

namespace SignOut.Text

/-- The code points of the blanks. -/
def blankRanges : List CodeRange :=
  [(0x09, 0x0D), (0x1C, 0x20), (0x85, 0x85), (0xA0, 0xA0), (0x1680, 0x1680), (0x2000, 0x200A),
   (0x2028, 0x2029), (0x202F, 0x202F), (0x205F, 0x205F), (0x3000, 0x3000)]

/-- A character that is dropped from the ends of a value. -/
def isBlank (c : Char) : Bool :=
  inRanges blankRanges c.toNat

/-- Drop the characters of a class from the end of a text. -/
def trimEndBy (p : Char → Bool) (cs : List Char) : List Char :=
  (cs.reverse.dropWhile p).reverse

/-- Drop the characters of a class from both ends of a text. -/
def trimBy (p : Char → Bool) (cs : List Char) : List Char :=
  trimEndBy p (cs.dropWhile p)

/-- Drop the blanks from both ends of a text. -/
def strip (cs : List Char) : List Char :=
  trimBy isBlank cs

theorem blankRanges_ascending : Ascending blankRanges = true := by decide

/-- The visible characters of ASCII are no blanks. -/
theorem isBlank_of_graphic {c : Char} (hlow : 0x20 < c.toNat) (hhigh : c.toNat < 0x7F) :
    isBlank c = false := by
  unfold isBlank blankRanges
  simp only [inRanges]
  grind

/-- The first character left by a trim is outside the class. -/
theorem dropWhile_head {p : Char → Bool} {cs : List Char} {c : Char} {rest : List Char}
    (h : cs.dropWhile p = c :: rest) : p c = false := by
  induction cs with
  | nil => simp at h
  | cons d ds ih =>
      rw [List.dropWhile_cons] at h
      split at h
      · exact ih h
      · rename_i hd
        simp only [List.cons.injEq] at h
        obtain ⟨rfl, -⟩ := h
        simpa using hd

/-- A character is dropped from the end of a text if it and all behind it are in the class. -/
theorem trimEndBy_cons (p : Char → Bool) (c : Char) (rest : List Char) :
    trimEndBy p (c :: rest) =
      if trimEndBy p rest = [] ∧ p c then [] else c :: trimEndBy p rest := by
  unfold trimEndBy
  rw [List.reverse_cons, List.dropWhile_append]
  cases h : rest.reverse.dropWhile p with
  | nil => cases hc : p c <;> simp [hc]
  | cons d more => simp

/-- It does not matter which end of a text is trimmed first. -/
theorem trimEndBy_dropWhile (p : Char → Bool) (cs : List Char) :
    trimEndBy p (cs.dropWhile p) = (trimEndBy p cs).dropWhile p := by
  induction cs with
  | nil => rfl
  | cons c rest ih =>
      cases hc : p c with
      | true =>
          rw [List.dropWhile_cons_of_pos hc, ih, trimEndBy_cons]
          split
          · rename_i hdropped
            rw [hdropped.1]
          · rw [List.dropWhile_cons_of_pos hc]
      | false =>
          have hkeep : ¬ p c = true := by simp [hc]
          rw [List.dropWhile_cons_of_neg hkeep, trimEndBy_cons, if_neg fun h => hkeep h.2,
            List.dropWhile_cons_of_neg hkeep]

/-- Trimming brings in no characters. -/
theorem mem_of_mem_trimBy {p : Char → Bool} {cs : List Char} {c : Char} (h : c ∈ trimBy p cs) :
    c ∈ cs := by
  have hfront : c ∈ cs.dropWhile p :=
    List.mem_reverse.mp ((List.dropWhile_sublist p).mem (List.mem_reverse.mp h))
  exact (List.dropWhile_sublist p).mem hfront

/-- A text whose first and last characters are outside the class is not trimmed. -/
theorem trimBy_eq_self {p : Char → Bool} {cs : List Char}
    (hfirst : ∀ c ∈ cs.head?, p c = false) (hlast : ∀ c ∈ cs.getLast?, p c = false) :
    trimBy p cs = cs := by
  have hdrop : ∀ ds : List Char, (∀ c ∈ ds.head?, p c = false) → ds.dropWhile p = ds := by
    intro ds h
    cases ds with
    | nil => rfl
    | cons c rest => exact List.dropWhile_cons_of_neg (by simp [h c rfl])
  unfold trimBy trimEndBy
  rw [hdrop cs hfirst, hdrop cs.reverse (by rwa [List.head?_reverse]), List.reverse_reverse]

/-- Trimming commutes with a change of characters that respects the class. -/
theorem trimBy_map {p : Char → Bool} {f : Char → Char} (h : p ∘ f = p) (cs : List Char) :
    trimBy p (cs.map f) = (trimBy p cs).map f := by
  unfold trimBy trimEndBy
  rw [List.dropWhile_map, h, ← List.map_reverse, List.dropWhile_map, h, List.map_reverse]

end SignOut.Text
