import SignOut.Calendar
import SignOut.Http.Request
import SignOut.Text.Blank
import SignOut.Text.Fields

/-!
# Cookies

Reading the cookies that a request carries, and the header line that makes a client forget a
cookie.
-/

namespace SignOut.Cookie

open Text

/-- An octal digit. -/
def isOctal (c : Char) : Bool := '0' ≤ c && c ≤ '7'

/-- The text between quotes with its escapes resolved: three octal digits name a character,
and a backslash before another character but a line feed stands for that character. -/
def unescape : List Char → List Char
  | [] => []
  | '\\' :: a :: b :: c :: rest =>
      if '0' ≤ a && a ≤ '3' && isOctal b && isOctal c then
        Char.ofNat (((a.toNat - 48) * 8 + (b.toNat - 48)) * 8 + (c.toNat - 48)) :: unescape rest
      else if a = '\n' then '\\' :: unescape (a :: b :: c :: rest)
      else a :: unescape (b :: c :: rest)
  | '\\' :: a :: rest =>
      if a = '\n' then '\\' :: unescape (a :: rest) else a :: unescape rest
  | c :: rest => c :: unescape rest
termination_by cs => cs.length

/-- A cookie's value: one within double quotes is unescaped. -/
def unquote (value : List Char) : List Char :=
  match value with
  | '"' :: rest =>
      match rest.reverse with
      | '"' :: inner => unescape inner.reverse
      | _ => value
  | _ => value

/-- The cookie of a piece between semicolons; a piece without an equals sign is a value without
a name, and an empty piece is no cookie. -/
def ofPiece? (piece : List Char) : Option (String × String) :=
  let (name, value) :=
    match cut '=' piece with
    | (name, some value) => (strip name, strip value)
    | (value, none) => ([], strip value)
  if name = [] ∧ value = [] then none
  else some (String.ofList name, String.ofList (unquote value))

/-- The cookies of a request; a later cookie replaces an earlier one of the same name. -/
def ofRequest (r : Request) : Keyed String :=
  Keyed.ofEntries
    ((r.headerValues "cookie").flatMap fun line => (fields ';' line.toList).filterMap ofPiece?)

/-- Names with a meaning of their own in a cookie line. -/
def reservedNames : List String :=
  ["expires", "path", "comment", "domain", "max-age", "secure", "httponly", "version",
   "samesite"]

/-- A name that is reserved in any case. -/
def isReserved (name : String) : Bool :=
  lowerText name ∈ reservedNames

/-- A character that may stand in a cookie's name. -/
def isNameChar (c : Char) : Bool :=
  ('a' ≤ c && c ≤ 'z') || ('A' ≤ c && c ≤ 'Z') || ('0' ≤ c && c ≤ '9') ||
    c ∈ "!#$%&'*+-.^_`|~:".toList

/-- A name made of the permitted characters. -/
def isLegalName (name : String) : Bool :=
  !name.toList.isEmpty && name.toList.all isNameChar

/-- An attribute that is left out when it has no value. -/
def labelled (label : String) : Option String → List String
  | none => []
  | some value => if value = "" then [] else [label ++ "=" ++ value]

/-- The value of the header line that expires a cookie now. -/
def deletion (name : String) (path domain : Option String) (now : Int) :
    Except Calendar.MomentFault String := do
  let date ← Calendar.cookieDate now
  return "; ".intercalate
    ((name ++ "=\"\"") :: labelled "Domain" domain ++
      ["expires=" ++ date, "Max-Age=0"] ++ labelled "Path" path ++
      ["SameSite=lax"])

/-! ## Cookies of a line -/

/-- A character of a cookie's name separates nothing in a cookie line and is no blank. -/
theorem plain_of_isNameChar {c : Char} (h : isNameChar c = true) :
    c ≠ '=' ∧ c ≠ ';' ∧ isBlank c = false := by
  -- an equals sign has the code 61 and a semicolon the code 59
  have hmark : ∀ mark ∈ "!#$%&'*+-.^_`|~:".toList,
      mark.toNat ≠ 61 ∧ mark.toNat ≠ 59 ∧ 0x20 < mark.toNat ∧ mark.toNat < 0x7F := by
    simp
  have hcode : c.toNat ≠ 61 ∧ c.toNat ≠ 59 ∧ 0x20 < c.toNat ∧ c.toNat < 0x7F := by
    unfold isNameChar at h
    simp only [Bool.or_eq_true, Bool.and_eq_true, decide_eq_true_eq] at h
    rcases h with ((⟨hlow, hhigh⟩ | ⟨hlow, hhigh⟩) | ⟨hlow, hhigh⟩) | h
    · have hsmall : 97 ≤ c.toNat ∧ c.toNat ≤ 122 := ⟨hlow, hhigh⟩
      omega
    · have hcapital : 65 ≤ c.toNat ∧ c.toNat ≤ 90 := ⟨hlow, hhigh⟩
      omega
    · have hdigit : 48 ≤ c.toNat ∧ c.toNat ≤ 57 := ⟨hlow, hhigh⟩
      omega
    · exact hmark c h
  obtain ⟨hequals, hsemicolon, hlow, hhigh⟩ := hcode
  refine ⟨?_, ?_, isBlank_of_graphic hlow hhigh⟩
  · rintro rfl
    exact hequals rfl
  · rintro rfl
    exact hsemicolon rfl

/-- A cookie line with a single cookie. -/
theorem ofPiece?_of_plain {name value : List Char} (hname : ∀ c ∈ name, isNameChar c = true)
    (hvalue : strip value = value) (hempty : name ≠ []) (hquote : value.head? ≠ some '"') :
    ofPiece? (name ++ '=' :: value) = some (String.ofList name, String.ofList value) := by
  have hequals : '=' ∉ name := fun h => (plain_of_isNameChar (hname _ h)).1 rfl
  have hstrip : strip name = name := by
    refine trimBy_eq_self (fun c hc => ?_) (fun c hc => ?_)
    · exact (plain_of_isNameChar (hname c (List.mem_of_mem_head? hc))).2.2
    · exact (plain_of_isNameChar (hname c (List.mem_of_getLast? hc))).2.2
  have hunquote : unquote value = value := by
    unfold unquote
    split
    · exact absurd rfl hquote
    · rfl
  unfold ofPiece?
  rw [cut_append_cons hequals]
  simp only [hstrip, hvalue, hunquote]
  exact if_neg fun h => hempty h.1

/-! ## The bytes of the header line -/

theorem isLatin1_twoDigits (n : Nat) : IsLatin1 (Calendar.twoDigits n).toList :=
  Calendar.forall_mem_twoDigits (fun _ => isLatin1_of_isDigit) n

theorem isLatin1_timeText (t : Calendar.Time) : IsLatin1 (Calendar.timeText t).toList := by
  have hcolon : IsLatin1 ":".toList := by simp [isLatin1]
  simp only [Calendar.timeText, String.toList_append, isLatin1_append, isLatin1_twoDigits, hcolon,
    and_self]

/-- A text out of a table whose texts all fit one byte per character does so, too. -/
theorem isLatin1_getD {table : List String} (h : ∀ text ∈ table, IsLatin1 text.toList) (i : Nat) :
    IsLatin1 (table.getD i "").toList := by
  rw [List.getD_eq_getElem?_getD]
  cases hi : table[i]? with
  | none => simp
  | some text => exact h text (List.mem_of_getElem? hi)

theorem isLatin1_cookieDate {now : Int} {date : String} (h : Calendar.cookieDate now = .ok date) :
    IsLatin1 date.toList := by
  have hweekdays : ∀ text ∈ Calendar.weekdayNames, IsLatin1 text.toList := by
    simp [Calendar.weekdayNames, isLatin1]
  have hmonths : ∀ text ∈ Calendar.monthNames, IsLatin1 text.toList := by
    simp [Calendar.monthNames, isLatin1]
  have hpunctuation : IsLatin1 ", ".toList ∧ IsLatin1 " ".toList ∧ IsLatin1 " GMT".toList := by
    simp [isLatin1]
  unfold Calendar.cookieDate at h
  dsimp only at h
  cases hdate : Calendar.dateOfSeconds (Calendar.floatingSeconds now) with
  | error fault =>
      rw [hdate] at h
      cases h
  | ok day =>
      rw [hdate] at h
      cases h
      have hyear : IsLatin1 (Calendar.padded ' ' 4 (toString day.year)).toList :=
        Calendar.forall_mem_padded (by decide) 4 (isLatin1_toString_int day.year)
      simp only [String.toList_append, isLatin1_append, isLatin1_twoDigits, isLatin1_timeText,
        isLatin1_getD hweekdays, isLatin1_getD hmonths, hyear, hpunctuation, and_self]

/-- The characters that may stand in a cookie's name fit one byte. -/
theorem isLatin1_of_isNameChar {c : Char} (h : isNameChar c = true) : isLatin1 c = true := by
  unfold isNameChar at h
  have hmark : ∀ mark ∈ "!#$%&'*+-.^_`|~:".toList, isLatin1 mark = true := by
    simp [isLatin1]
  simp only [Bool.or_eq_true, Bool.and_eq_true, decide_eq_true_eq] at h
  rcases h with ((⟨-, hsmall⟩ | ⟨-, hcapital⟩) | ⟨-, hdigit⟩) | h
  · have hle : c.toNat ≤ 122 := hsmall
    exact decide_eq_true (by omega)
  · have hle : c.toNat ≤ 90 := hcapital
    exact decide_eq_true (by omega)
  · have hle : c.toNat ≤ 57 := hdigit
    exact decide_eq_true (by omega)
  · exact hmark c h

theorem isLatin1_of_isLegalName {name : String} (h : isLegalName name = true) :
    IsLatin1 name.toList := by
  unfold isLegalName at h
  obtain ⟨-, hall⟩ := Bool.and_eq_true_iff.mp h
  exact fun c hc => isLatin1_of_isNameChar (List.all_eq_true.mp hall c hc)

/-- An attribute fits one byte per character iff its value does. -/
theorem isLatin1_labelled {label : String} (hlabel : IsLatin1 (label ++ "=").toList)
    (value : Option String) :
    (∀ part ∈ labelled label value, IsLatin1 part.toList) ↔
      ∀ text, value = some text → IsLatin1 text.toList := by
  cases value with
  | none => simp [labelled]
  | some text =>
      by_cases htext : text = ""
      · simp [labelled, htext]
      · have hpart : labelled label (some text) = [label ++ "=" ++ text] := if_neg htext
        rw [hpart]
        simp only [List.mem_singleton, forall_eq, Option.some.injEq, forall_eq']
        rw [String.toList_append, isLatin1_append]
        exact and_iff_right hlabel

/-- The line that expires a cookie fits one byte per character iff its name and the values of its
attributes do. -/
theorem isLatin1_deletion {name : String} {path domain : Option String} {now : Int} {line : String}
    (h : deletion name path domain now = .ok line) :
    IsLatin1 line.toList ↔ IsLatin1 name.toList ∧
      (∀ text, path = some text → IsLatin1 text.toList) ∧
      ∀ text, domain = some text → IsLatin1 text.toList := by
  unfold deletion at h
  cases hdate : Calendar.cookieDate now with
  | error fault =>
      rw [hdate] at h
      cases h
  | ok date =>
      rw [hdate] at h
      cases h
      have hvalue : IsLatin1 (name ++ "=\"\"").toList ↔ IsLatin1 name.toList := by
        simp [isLatin1]
      have hexpires : IsLatin1 ("expires=" ++ date).toList := by
        simp [isLatin1, isLatin1_cookieDate hdate]
      have hage : IsLatin1 "Max-Age=0".toList := by simp [isLatin1]
      have hsite : IsLatin1 "SameSite=lax".toList := by simp [isLatin1]
      have hdomain :=
        isLatin1_labelled (by simp [isLatin1] : IsLatin1 ("Domain" ++ "=").toList) domain
      have hpath := isLatin1_labelled (by simp [isLatin1] : IsLatin1 ("Path" ++ "=").toList) path
      rw [isLatin1_intercalate (by simp [isLatin1])]
      simp only [List.forall_mem_append, List.forall_mem_cons]
      rw [hdomain, hpath, hvalue]
      simp only [hexpires, hage, hsite, List.not_mem_nil, false_implies, implies_true, and_true]
      constructor
      · rintro ⟨⟨hname, hdomain⟩, hpath⟩
        exact ⟨hname, hpath, hdomain⟩
      · rintro ⟨hname, hpath, hdomain⟩
        exact ⟨⟨hname, hdomain⟩, hpath⟩

end SignOut.Cookie
