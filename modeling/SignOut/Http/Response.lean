import SignOut.Http.Request

/-!
# Responses

A response has a status, which may be left blank, an ordered list of header lines and a body.
Setting a header replaces the first line of that name in place and drops the others; a new name
goes to the end.
-/

namespace SignOut

/-- A response under construction. -/
structure Response where
  status : Option Int
  headers : List HeaderLine
  body : String
deriving DecidableEq

namespace Response

/-- A status whose response announces no length. -/
def hasNoLength (status : Int) : Bool :=
  status < 200 || status == 204 || status == 304

/-- A fresh response: it announces the length of its body in bytes. -/
def fresh (body : String) (status : Int) : Response :=
  { status := some status, body
    headers :=
      if hasNoLength status then []
      else [("content-length", toString body.utf8ByteSize)] }

/-- The response that a completed sign-out starts from. -/
def initial : Response := fresh "" 200

/-- The first line of a name replaced by a value and the later ones dropped. -/
def replaceLine (name value : String) : List HeaderLine → List HeaderLine
  | [] => []
  | line :: rest =>
      if line.1 = name then (name, value) :: rest.filter (·.1 ≠ name)
      else line :: replaceLine name value rest

/-- Header lines with a value set under a name. -/
def setLine (name value : String) (lines : List HeaderLine) : List HeaderLine :=
  if lines.any (·.1 = name) then replaceLine name value lines else lines ++ [(name, value)]

/-- The response with a header set. -/
def setHeader (r : Response) (name value : String) : Response :=
  { r with headers := setLine name value r.headers }

/-- The response with a header line added at the end. -/
def addHeader (r : Response) (name value : String) : Response :=
  { r with headers := r.headers ++ [(name, value)] }

/-- The response without the header lines of a name. -/
def removeHeader (r : Response) (name : String) : Response :=
  { r with headers := r.headers.filter (·.1 ≠ name) }

/-- The response turned into a bare status; without content no length is announced. -/
def withoutContent (r : Response) (status : Option Int) : Response :=
  let emptied := { r with status, body := "" }
  if status = some 204 then emptied.removeHeader "content-length" else emptied

/-! ## Setting a header -/

/-- A value was set under a name in header lines.  The first line of that name has the value in its
place and the later ones are gone; without a line of that name, there is a new one at the end. -/
inductive SetIn (name value : String) : List HeaderLine → List HeaderLine → Prop
  | replaced {before : List HeaderLine} (old : String) (after : List HeaderLine)
      (hfirst : ∀ line ∈ before, line.1 ≠ name) :
      SetIn name value (before ++ (name, old) :: after)
        (before ++ (name, value) :: after.filter (·.1 ≠ name))
  | appended {lines : List HeaderLine} (hnone : ∀ line ∈ lines, line.1 ≠ name) :
      SetIn name value lines (lines ++ [(name, value)])

variable {name value : String} {lines lines' : List HeaderLine}

/-- Replacing a line passes over the lines of other names in front of it. -/
theorem replaceLine_append {before : List HeaderLine} (hfirst : ∀ line ∈ before, line.1 ≠ name)
    (old : String) (after : List HeaderLine) :
    replaceLine name value (before ++ (name, old) :: after) =
      before ++ (name, value) :: after.filter (·.1 ≠ name) := by
  induction before with
  | nil => simp [replaceLine]
  | cons line rest ih =>
      obtain ⟨hline, hrest⟩ := List.forall_mem_cons.mp hfirst
      simp [replaceLine, hline, ih hrest]

theorem setIn_setLine (name value : String) (lines : List HeaderLine) :
    SetIn name value lines (setLine name value lines) := by
  unfold setLine
  by_cases hany : lines.any (·.1 = name) = true
  · -- the line that is found first splits the lines in two
    rw [if_pos hany]
    obtain ⟨⟨found, old⟩, hfound⟩ := Option.isSome_iff_exists.mp (List.find?_isSome.mpr
      (List.any_eq_true.mp hany))
    obtain ⟨hname, before, after, rfl, hbefore⟩ := List.find?_eq_some_iff_append.mp hfound
    obtain rfl : found = name := of_decide_eq_true hname
    have hfirst : ∀ line ∈ before, line.1 ≠ found := by simpa using hbefore
    rw [replaceLine_append hfirst]
    exact .replaced old after hfirst
  · rw [if_neg hany]
    exact .appended fun line hmem heq =>
      hany (List.any_eq_true.mpr ⟨line, hmem, decide_eq_true heq⟩)

/-- Exactly one line has the name afterwards, and it has the value. -/
theorem SetIn.filter_eq (h : SetIn name value lines lines') :
    lines'.filter (·.1 = name) = [(name, value)] := by
  have hnone : ∀ {others : List HeaderLine}, (∀ line ∈ others, line.1 ≠ name) →
      others.filter (·.1 = name) = [] := by
    intro others hothers
    exact List.filter_eq_nil_iff.mpr fun line hmem => by simpa using hothers line hmem
  cases h with
  | replaced old after hfirst => simp [hnone hfirst, List.filter_filter]
  | appended hlines => simp [hnone hlines]

/-- The lines of other names stay, in their order. -/
theorem SetIn.filter_ne (h : SetIn name value lines lines') :
    lines'.filter (·.1 ≠ name) = lines.filter (·.1 ≠ name) := by
  cases h with
  | replaced old after hfirst => simp [List.filter_filter]
  | appended hnone => simp

/-- The lines of one name are among those that do not have another name. -/
theorem filter_filter_ne {other : String} (h : name ≠ other) (lines : List HeaderLine) :
    (lines.filter (·.1 ≠ name)).filter (·.1 = other) = lines.filter (·.1 = other) := by
  rw [List.filter_filter]
  refine List.filter_congr fun line _ => ?_
  by_cases hline : line.1 = other
  · simp [hline, h.symm]
  · simp [hline]

/-- The lines of any other name stay, in their order. -/
theorem SetIn.filter_of_ne {other : String} (h : SetIn name value lines lines')
    (hother : name ≠ other) : lines'.filter (·.1 = other) = lines.filter (·.1 = other) := by
  rw [← filter_filter_ne hother lines', h.filter_ne, filter_filter_ne hother]

end Response

end SignOut
