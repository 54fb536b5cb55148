import SignOut.Proofs.TargetPath
import SignOut.Proofs.Verbatim

/-!
# The messages of the stage

The stage remarks on paths that are set in vain, on the stage that was built, on completed sign-outs
and on removed sessions.  The messages hold texts that come from outside: configured paths, and the
path and the method of a request.  For each of them this module says exactly which of these texts
put a character into the message that needs an escape inside a string.  Numbers never do.  A path
between quotes does unless it is plain, and the path of a request does not where its target alters
it: backslashes are written by their code there, tabs and line ends are dropped.
-/

namespace SignOut

open Json (isVerbatim Verbatim)

namespace Json

/-! ## Texts without escapes -/

theorem isVerbatim_of_isDigit {c : Char} (h : c.isDigit = true) : isVerbatim c = true := by
  unfold Char.isDigit at h
  obtain ⟨hlow, hhigh⟩ := Bool.and_eq_true_iff.mp h
  have hle : 48 ≤ c.toNat := of_decide_eq_true hlow
  have hge : c.toNat ≤ 57 := of_decide_eq_true hhigh
  refine isVerbatim_iff.mpr ⟨?_, ?_, by omega⟩
  · rintro rfl
    revert hle
    decide
  · rintro rfl
    revert hge
    decide

theorem verbatim_toString_nat (n : Nat) : Verbatim (toString n).toList :=
  Text.forall_mem_toString_nat (fun _ => isVerbatim_of_isDigit) n

theorem verbatim_toString_int (n : Int) : Verbatim (toString n).toList :=
  Text.forall_mem_toString_int (fun _ => isVerbatim_of_isDigit) (by decide) n

theorem verbatim_twoDigits (n : Nat) : Verbatim (Calendar.twoDigits n).toList :=
  Calendar.forall_mem_twoDigits (fun _ => isVerbatim_of_isDigit) n

/-- The time of an entry needs no escape. -/
theorem verbatim_plainText {moment : Int} {written : String}
    (h : Calendar.plainText moment = .ok written) : Verbatim written.toList := by
  obtain ⟨date, -, h⟩ := Checks.bind_eq_ok_iff.mp h
  split at h
  · cases h
  · cases h
    have hmarks : Verbatim "-".toList ∧ Verbatim " ".toList ∧ Verbatim ":".toList := by decide
    simp only [Calendar.timeText, String.toList_append, verbatim_append, verbatim_toString_int,
      verbatim_twoDigits, hmarks, and_self]

end Json

/-! ## Quoted texts -/

namespace Text

/-- A character that is written as it is between quotes of either kind. -/
def isPlain (c : Char) : Bool :=
  isPrintable c && c ≠ '\'' && c ≠ '"' && c ≠ '\\'

/-- A text that is written as it is between single quotes. -/
def Plain (cs : List Char) : Prop :=
  ∀ c ∈ cs, isPlain c = true

instance (cs : List Char) : Decidable (Plain cs) :=
  decidable_of_iff (cs.all isPlain = true) List.all_eq_true

theorem isPlain_iff {c : Char} :
    isPlain c = true ↔ isPrintable c = true ∧ c ≠ '\'' ∧ c ≠ '"' ∧ c ≠ '\\' := by
  simp [isPlain, and_assoc]

/-- Control characters are not printable. -/
theorem le_toNat_of_isPrintable {c : Char} (h : isPrintable c = true) : 0x20 ≤ c.toNat := by
  refine Nat.le_of_not_lt fun hlow => ?_
  have hrange : inRanges unprintableRanges c.toNat = true := by
    unfold unprintableRanges
    rw [inRanges, if_neg (Nat.not_lt_zero _), if_pos (by omega)]
  simp [isPrintable, hrange] at h

/-- What is written of a character between single quotes is verbatim iff the character is plain: the
others are escaped by a backslash, but for the double quote, which is written as it is. -/
theorem verbatim_quotedChar_iff {c : Char} :
    Verbatim (quotedChar '\'' c) ↔ isPlain c = true := by
  rw [isPlain_iff]
  unfold quotedChar
  split
  · rename_i hmark
    rcases Bool.or_eq_true_iff.mp hmark with hquote | hbackslash
    · simp [of_decide_eq_true hquote, Json.isVerbatim]
    · simp [of_decide_eq_true hbackslash, Json.isVerbatim]
  rename_i hmark
  obtain ⟨hquote, hbackslash⟩ : c ≠ '\'' ∧ c ≠ '\\' := by simpa using hmark
  split
  · rename_i htab
    subst htab
    decide
  split
  · rename_i hline
    subst hline
    decide
  split
  · rename_i hreturn
    subst hreturn
    decide
  split
  · rename_i hprintable
    have hlow := le_toNat_of_isPrintable hprintable
    simp [hprintable, hquote, hbackslash, Json.isVerbatim_iff, hlow]
  · rename_i hprintable
    have hescape : ¬ Verbatim (codePointEscape c) := by
      unfold codePointEscape
      dsimp only
      split
      · simp [Json.isVerbatim]
      split
      · simp [Json.isVerbatim]
      · simp [Json.isVerbatim]
    simp [hescape, hprintable]

/-- A quoted text is verbatim iff the text is plain: a single quote calls for double ones around the
text or for an escape, and so does everything that is not printable. -/
theorem verbatim_quoted_iff {cs : List Char} : Verbatim (quoted cs) ↔ Plain cs := by
  unfold quoted quoteMark
  dsimp only
  split
  · -- double quotes around the text, because a single one stands in it
    rename_i hmark
    obtain ⟨hmem, -⟩ := Bool.and_eq_true_iff.mp hmark
    have hquote : '\'' ∈ cs := of_decide_eq_true hmem
    constructor
    · intro h
      exact absurd (h '"' (List.mem_cons_self ..)) (by decide)
    · intro h
      exact absurd (h '\'' hquote) (by decide)
  · have hmark : isVerbatim '\'' = true := by decide
    simp only [List.cons_append, Json.verbatim_cons, Json.verbatim_append, hmark,
      Json.verbatim_nil, true_and, and_true]
    constructor
    · intro h c hc
      refine verbatim_quotedChar_iff.mp fun d hd => ?_
      exact h d (List.mem_flatMap.mpr ⟨c, hc, hd⟩)
    · intro h d hd
      obtain ⟨c, hc, hd⟩ := List.mem_flatMap.mp hd
      exact verbatim_quotedChar_iff.mpr (h c hc) d hd

end Text

namespace Request

/-! ## The path of a target -/

/-- The characters that are dropped from the path of a target. -/
def isDropped (c : Char) : Bool :=
  c == '\t' || c == '\r' || c == '\n'

/-- What is left of a character is verbatim iff the character is, or is altered. -/
theorem verbatim_targetChar_iff {c : Char} :
    (∀ d ∈ targetChar c, isDropped d = false → isVerbatim d = true) ↔
      c ∈ alteredChars ∨ isVerbatim c = true := by
  by_cases haltered : c ∈ alteredChars
  · refine iff_of_true ?_ (.inl haltered)
    simp only [alteredChars, List.mem_cons, List.not_mem_nil, or_false] at haltered
    rcases haltered with rfl | rfl | rfl | rfl | rfl | rfl <;>
      simp [targetChar, isDropped, isVerbatim]
  · rw [targetChar_of_not_mem haltered]
    have hkept : isDropped c = false := by
      simp only [alteredChars, List.mem_cons, not_or] at haltered
      simp [isDropped, haltered]
    simp [haltered, hkept]

theorem mem_targetPath_iff {path : List Char} {d : Char} (hd : isVerbatim d = false) :
    d ∈ targetPath path ↔ d ∈ path.flatMap targetChar ∧ isDropped d = false := by
  have hslash : d ≠ '/' := by
    rintro rfl
    revert hd
    decide
  unfold targetPath
  dsimp only
  rw [List.mem_filter, Bool.not_eq_true']
  split
  · rename_i hnothing
    simp [hnothing]
  · rename_i rest hrooted
    rw [hrooted, isDropped]
  · rw [List.mem_cons, or_iff_right hslash, isDropped]

/-- The path of a target is verbatim iff every character of the path is, or is altered: backslashes
are written by their code, tabs and line ends are dropped. -/
theorem verbatim_targetPath_iff {path : List Char} :
    Verbatim (targetPath path) ↔ ∀ c ∈ path, c ∈ alteredChars ∨ isVerbatim c = true := by
  constructor
  · intro h c hc
    refine verbatim_targetChar_iff.mp fun d hd hkept => ?_
    by_cases hverbatim : isVerbatim d = true
    · exact hverbatim
    · have hflat : d ∈ path.flatMap targetChar := List.mem_flatMap.mpr ⟨c, hc, hd⟩
      exact h d ((mem_targetPath_iff (Bool.eq_false_iff.mpr hverbatim)).mpr ⟨hflat, hkept⟩)
  · intro h d hd
    by_cases hverbatim : isVerbatim d = true
    · exact hverbatim
    · obtain ⟨hflat, hkept⟩ := (mem_targetPath_iff (Bool.eq_false_iff.mpr hverbatim)).mp hd
      obtain ⟨c, hc, hd⟩ := List.mem_flatMap.mp hflat
      exact verbatim_targetChar_iff.mpr (h c hc) d hd hkept

end Request

/-! ## The messages of the stage -/

/-- What the record of a completed sign-out says behind the path. -/
def Stage.ending (e : Exchange) : String :=
  ", method=" ++ e.request.method ++ ", status=" ++ (e.response.status.map toString).getD "None"

theorem Stage.message_completion (path : String) (e : Exchange) :
    (completion path e).message = "Logout completed: path=" ++ path ++ ending e := by
  simp [completion, ending, toString, String.append_assoc]

/-- Of the method and the status, only the method can need an escape. -/
theorem Stage.verbatim_ending_iff (e : Exchange) :
    Verbatim (ending e).toList ↔ Verbatim e.request.method.toList := by
  have hstatus : Verbatim ((e.response.status.map toString).getD "None").toList := by
    cases e.response.status with
    | none => decide
    | some status => exact Json.verbatim_toString_int status
  have hfixed : Verbatim ", method=".toList ∧ Verbatim ", status=".toList := by decide
  simp only [ending, String.toList_append, Json.verbatim_append, hfixed, hstatus, true_and,
    and_true]

theorem Stage.verbatim_completion_iff (path : String) (e : Exchange) :
    Verbatim (completion path e).message.toList ↔
      Verbatim path.toList ∧ Verbatim e.request.method.toList := by
  have hfixed : Verbatim "Logout completed: path=".toList := by decide
  simp only [message_completion, String.toList_append, Json.verbatim_append, hfixed,
    verbatim_ending_iff, true_and]

theorem Handler.verbatim_removal (deleted : Nat) :
    Verbatim (removal deleted).message.toList := by
  have hfixed : Verbatim "Removed server-side session (deleted=".toList ∧ Verbatim ")".toList := by
    decide
  show Verbatim ("Removed server-side session (deleted=" ++ toString deleted ++ ")").toList
  simp only [String.toList_append, Json.verbatim_append, hfixed, Json.verbatim_toString_nat,
    and_self]

/-- The remark on a path names both paths between quotes. -/
theorem Options.verbatim_ignoredPath_iff (ignored inEffect : String) :
    Verbatim (ignoredPath ignored inEffect).message.toList ↔
      Text.Plain ignored.toList ∧ Text.Plain inEffect.toList := by
  have hfixed : Verbatim "Ignoring logout path ".toList ∧
      Verbatim "; already configured as ".toList := by
    decide
  show Verbatim ("Ignoring logout path " ++ Text.quote ignored ++ "; already configured as " ++
    Text.quote inEffect).toList ↔ _
  simp only [String.toList_append, Json.verbatim_append, hfixed, Text.quote, String.toList_ofList,
    Text.verbatim_quoted_iff, true_and, and_true]

/-- The record of a built stage can need an escape in its path alone. -/
theorem Assembly.verbatim_built_iff {c : Configuration} {csrfEnabled : Bool}
    (hmethods : c.methods = allowedMethods csrfEnabled) :
    Verbatim (built c).message.toList ↔ Verbatim (c.logoutPath.getD "None").toList := by
  have hlist : Verbatim (Text.quoteList c.methods).toList := by
    rw [hmethods]
    cases csrfEnabled <;> decide
  have hfixed : Verbatim "Logout stage built: path=".toList ∧ Verbatim ", methods=".toList ∧
      Verbatim ", handlers=".toList ∧ Verbatim ", routes=".toList := by
    decide
  show Verbatim ("Logout stage built: path=" ++ c.logoutPath.getD "None" ++ ", methods=" ++
    Text.quoteList c.methods ++ ", handlers=" ++ toString c.handlers.length ++ ", routes=" ++
    toString c.routes.length).toList ↔ _
  simp only [String.toList_append, Json.verbatim_append, hfixed, hlist, Json.verbatim_toString_nat,
    true_and, and_true]

end SignOut
