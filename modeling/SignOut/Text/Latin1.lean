import SignOut.Text.Numeral
import SignOut.Text.Quoted

/-!
# Texts in one byte per character

Header lines carry the characters up to U+00FF.  A text with others cannot be sent; the error
names its first run of such characters.
-/

namespace SignOut.Text

/-- A character that fits one byte. -/
def isLatin1 (c : Char) : Bool :=
  c.toNat < 0x100

/-- The first run of characters of a text that do not fit one byte each. -/
structure UnencodableRun where
  start : Nat
  first : Char
  length : Nat
deriving DecidableEq, Repr

/-- The first run of characters outside one byte, if there is one. -/
def unencodableRun? (cs : List Char) : Option UnencodableRun :=
  match cs.dropWhile isLatin1 with
  | [] => none
  | c :: rest =>
      some
        { start := (cs.takeWhile isLatin1).length
          first := c
          length := 1 + (rest.takeWhile (fun d => !isLatin1 d)).length }

/-- Every character of a text fits one byte. -/
def IsLatin1 (cs : List Char) : Prop :=
  ∀ c ∈ cs, isLatin1 c = true

/-- The words for a text that cannot be sent. -/
def UnencodableRun.message (run : UnencodableRun) : String :=
  let reason := "ordinal not in range(256)"
  if run.length = 1 then
    let name := String.ofList (codePointEscape run.first)
    s!"'latin-1' codec can't encode character '{name}' in position {run.start}: {reason}"
  else
    let last := run.start + run.length - 1
    s!"'latin-1' codec can't encode characters in position {run.start}-{last}: {reason}"

/-- A text has no unencodable run exactly when it fits one byte per character. -/
theorem unencodableRun?_eq_none_iff (cs : List Char) :
    unencodableRun? cs = none ↔ IsLatin1 cs := by
  unfold unencodableRun? IsLatin1
  induction cs with
  | nil => simp
  | cons c rest ih =>
      by_cases hc : isLatin1 c = true
      · simp only [List.dropWhile_cons, hc, if_true, List.mem_cons, forall_eq_or_imp, true_and]
        rw [← ih]
        cases rest.dropWhile isLatin1 <;> simp
      · simp [hc]

@[simp] theorem isLatin1_nil : IsLatin1 [] := by
  simp [IsLatin1]

@[simp] theorem isLatin1_cons {c : Char} {cs : List Char} :
    IsLatin1 (c :: cs) ↔ isLatin1 c = true ∧ IsLatin1 cs :=
  List.forall_mem_cons

@[simp] theorem isLatin1_append {cs ds : List Char} :
    IsLatin1 (cs ++ ds) ↔ IsLatin1 cs ∧ IsLatin1 ds :=
  List.forall_mem_append

/-- Texts around a separator that fits one byte per character do so together iff each of them
does. -/
theorem isLatin1_intercalate {separator : String} {parts : List String}
    (hseparator : IsLatin1 separator.toList) :
    IsLatin1 (separator.intercalate parts).toList ↔ ∀ part ∈ parts, IsLatin1 part.toList := by
  rw [String.toList_intercalate]
  induction parts with
  | nil => simp
  | cons part rest ih =>
      cases rest with
      | nil => simp
      | cons next rest =>
          have hsplit : List.intercalate separator.toList
              (List.map String.toList (part :: next :: rest)) =
              part.toList ++ separator.toList ++
                List.intercalate separator.toList (List.map String.toList (next :: rest)) := by
            simp [List.intercalate]
          rw [hsplit, isLatin1_append, isLatin1_append, ih]
          simp [hseparator]

theorem isLatin1_of_isDigit {c : Char} (h : c.isDigit = true) : isLatin1 c = true := by
  unfold Char.isDigit at h
  obtain ⟨-, h⟩ := Bool.and_eq_true_iff.mp h
  have hle : c.toNat ≤ 57 := of_decide_eq_true h
  exact decide_eq_true (by omega)

theorem isLatin1_toString_int (n : Int) : IsLatin1 (toString n).toList :=
  forall_mem_toString_int (fun _ => isLatin1_of_isDigit) (by decide) n

end SignOut.Text
