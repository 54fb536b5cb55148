import Mathlib.Data.List.Basic
import Mathlib.Data.List.TakeWhile
import Mathlib.Data.Option.Basic
import SignOut.Proofs.MediaRefusal

/-!
# Canonical forms of headers

The essences of what a header declares, with commas between them, make up a header again.  It
declares the same names at the same places, all of them with full quality, without parameters and
at positions without gaps, and it is its own canonical form.  The reason is what a name cannot hold
once it has been read: no separator, because these are cut away first; no blank at an end and no
capital letter, because trimming leaves no blank at an end and lower case brings none there.  In a
text of one byte per character the lower-case form is taken character by character, which is all
that is needed of the letters.
-/

namespace SignOut

open Numeric

namespace Text

variable {p : Char → Bool} {sep : Char} {c : Char} {cs : List Char}

/-! ## Trimmed texts -/

/-- The first and the last character of a text are outside a class. -/
def Trimmed (p : Char → Bool) (cs : List Char) : Prop :=
  (∀ c ∈ cs.head?, p c = false) ∧ ∀ c ∈ cs.getLast?, p c = false

theorem not_mem_class_of_mem_head?_dropWhile (h : c ∈ (cs.dropWhile p).head?) : p c = false := by
  obtain ⟨rest, hdropped⟩ := List.head?_eq_some_iff.mp h
  exact dropWhile_head hdropped

/-- Trimming leaves no character of the class at an end. -/
theorem trimmed_trimBy (p : Char → Bool) (cs : List Char) : Trimmed p (trimBy p cs) := by
  constructor
  · intro c hc
    rw [trimBy, trimEndBy_dropWhile] at hc
    exact not_mem_class_of_mem_head?_dropWhile hc
  · intro c hc
    rw [trimBy, trimEndBy, List.getLast?_reverse] at hc
    exact not_mem_class_of_mem_head?_dropWhile hc

theorem Trimmed.trimBy_eq (h : Trimmed p cs) : trimBy p cs = cs :=
  trimBy_eq_self h.1 h.2

/-- A text with trimmed texts at its ends is trimmed. -/
theorem Trimmed.append {front back : List Char} (hfront : Trimmed p front) (hback : Trimmed p back)
    (hfrontNe : front ≠ []) (hbackNe : back ≠ []) (between : List Char) :
    Trimmed p (front ++ (between ++ back)) := by
  constructor
  · rw [List.head?_append_of_ne_nil _ hfrontNe]
    exact hfront.1
  · rw [List.getLast?_append_of_ne_nil _ (List.append_ne_nil_of_right_ne_nil _ hbackNe),
      List.getLast?_append_of_ne_nil _ hbackNe]
    exact hback.2

/-! ## Joining and cutting -/

theorem joinWith_cons_cons (part next : List Char) (more : List (List Char)) :
    joinWith sep (part :: next :: more) = part ++ sep :: joinWith sep (next :: more) := rfl

/-- Fields that do not hold the separator come back out of the text in which they are joined. -/
theorem fields_joinWith {parts : List (List Char)} (hne : parts ≠ [])
    (h : ∀ part ∈ parts, sep ∉ part) : fields sep (joinWith sep parts) = parts := by
  induction parts with
  | nil => exact absurd rfl hne
  | cons part rest ih =>
      have hpart : sep ∉ part := h part List.mem_cons_self
      cases rest with
      | nil => exact fields_of_not_mem hpart
      | cons next more =>
          rw [joinWith_cons_cons, fields_append_cons hpart,
            ih (List.cons_ne_nil next more) fun part hmem => h part (List.mem_cons_of_mem _ hmem)]

theorem intercalate_eq_joinWith (sep : Char) (parts : List (List Char)) :
    [sep].intercalate parts = joinWith sep parts := by
  induction parts with
  | nil => rfl
  | cons part rest ih =>
      cases rest with
      | nil => simp [joinWith]
      | cons next more =>
          rw [List.intercalate_cons_cons, ih, joinWith_cons_cons, List.append_assoc,
            List.singleton_append]

/-- The characters of a field are characters of the text. -/
theorem mem_of_mem_fields {field : List Char} (hfield : field ∈ fields sep cs) (hc : c ∈ field) :
    c ∈ cs := by
  induction cs generalizing field with
  | nil =>
      rw [fields, List.mem_singleton] at hfield
      rwa [hfield] at hc
  | cons d rest ih =>
      obtain ⟨first, more, hfields⟩ := List.exists_cons_of_ne_nil (fields_ne_nil sep rest)
      rw [fields, hfields] at hfield
      rw [hfields] at ih
      have hrest : ∀ field ∈ first :: more, c ∈ field → c ∈ d :: rest :=
        fun field hmem hc => List.mem_cons_of_mem _ (ih hmem hc)
      split at hfield
      · rcases List.mem_cons.mp hfield with rfl | hmem
        · cases hc
        · exact hrest field hmem hc
      · rcases List.mem_cons.mp hfield with rfl | hmem
        · rcases List.mem_cons.mp hc with rfl | hc
          · exact List.mem_cons_self
          · exact hrest first List.mem_cons_self hc
        · exact hrest field (List.mem_cons_of_mem _ hmem) hc

/-! ## Lower case in one byte per character -/

/-- The lower-case form of a character that has a single one. -/
def small (c : Char) : Char :=
  ((caseImage lowerRuns c.toNat).map Char.ofNat).getD c

/-- The capital letters that fit one byte: those of the basic script, and the accented ones around
the sign of multiplication. -/
def isCapital (c : Char) : Bool :=
  inRanges [(0x41, 0x5A), (0xC0, 0xD6), (0xD8, 0xDE)] c.toNat

/-- What is checked for every byte holds of the characters that fit one. -/
theorem forall_isLatin1 {P : Char → Prop} [DecidablePred P]
    (h : ∀ n : Fin 256, P (Char.ofNat n)) (hc : isLatin1 c = true) : P c := by
  have hn := h ⟨c.toNat, of_decide_eq_true hc⟩
  rwa [Char.ofNat_toNat] at hn

theorem isLatin1_small (h : isLatin1 c = true) : isLatin1 (small c) = true :=
  forall_isLatin1 (P := fun c => isLatin1 (small c) = true) (by decide +kernel) h

theorem isBlank_small (h : isLatin1 c = true) : isBlank (small c) = isBlank c :=
  forall_isLatin1 (P := fun c => isBlank (small c) = isBlank c) (by decide +kernel) h

theorem isCapital_small (h : isLatin1 c = true) : isCapital (small c) = false :=
  forall_isLatin1 (P := fun c => isCapital (small c) = false) (by decide +kernel) h

/-- The capital letters are the characters with another lower-case form. -/
theorem small_eq_self_iff (h : isLatin1 c = true) : small c = c ↔ isCapital c = false :=
  forall_isLatin1 (P := fun c => small c = c ↔ isCapital c = false) (by decide +kernel) h

theorem lowerAfter_of_isLatin1 (h : IsLatin1 cs) (before : Bool) :
    lowerAfter before cs = cs.map small := by
  induction cs generalizing before with
  | nil => rfl
  | cons c rest ih =>
      obtain ⟨hc, hrest⟩ := isLatin1_cons.mp h
      -- the two letters whose forms depend on others do not fit one byte
      have hspecial : c ≠ 'Σ' ∧ c ≠ 'İ' :=
        forall_isLatin1 (P := fun c => c ≠ 'Σ' ∧ c ≠ 'İ') (by decide +kernel) hc
      rw [lowerAfter, if_neg hspecial.1, lowerChar, if_neg hspecial.2, ih hrest]
      rfl

theorem lower_of_isLatin1 (h : IsLatin1 cs) : lower cs = cs.map small :=
  lowerAfter_of_isLatin1 h false

theorem isLatin1_trimBy (p : Char → Bool) (h : IsLatin1 cs) : IsLatin1 (trimBy p cs) :=
  fun c hc => h c (mem_of_mem_trimBy hc)

/-- Lower case moves no blank to an end. -/
theorem trimmed_lower (hlatin : IsLatin1 cs) (h : Trimmed isBlank cs) :
    Trimmed isBlank (lower cs) := by
  have hsmall : ∀ o : Option Char, (∀ c ∈ o, c ∈ cs) → (∀ c ∈ o, isBlank c = false) →
      ∀ c ∈ o.map small, isBlank c = false := by
    intro o hmem hblank c hc
    obtain ⟨d, hd, rfl⟩ := Option.mem_map.mp hc
    rw [isBlank_small (hlatin d (hmem d hd))]
    exact hblank d hd
  rw [lower_of_isLatin1 hlatin, Trimmed, List.head?_map, List.getLast?_map]
  exact ⟨hsmall _ (fun c hc => List.mem_of_mem_head? hc) h.1,
    hsmall _ (fun c hc => List.mem_of_mem_getLast? hc) h.2⟩

end Text

open Text

/-! ## Names that have been read -/

/-- A name as it is read from a header: it holds something, no separator and no capital letter, and
no blank stands at its ends. -/
structure CanonicalName (name : String) : Prop where
  ne : name ≠ ""
  latin1 : IsLatin1 name.toList
  comma : ',' ∉ name.toList
  semicolon : ';' ∉ name.toList
  slash : '/' ∉ name.toList
  no_capital : ∀ c ∈ name.toList, isCapital c = false
  trimmed : Trimmed isBlank name.toList

namespace CanonicalName

variable {name : String}

theorem toList_ne_nil (h : CanonicalName name) : name.toList ≠ [] :=
  fun hnil => h.ne (String.toList_eq_nil_iff.mp hnil)

theorem strip_toList (h : CanonicalName name) : strip name.toList = name.toList :=
  h.trimmed.trimBy_eq

theorem lower_toList (h : CanonicalName name) : lower name.toList = name.toList := by
  rw [lower_of_isLatin1 h.latin1]
  exact (List.map_congr_left fun c hc =>
    (small_eq_self_iff (h.latin1 c hc)).mpr (h.no_capital c hc)).trans (List.map_id _)

/-- The name that is read from a text without separators. -/
theorem of_side {side : List Char} (hlatin : IsLatin1 side) (hcomma : ',' ∉ side)
    (hsemicolon : ';' ∉ side) (hslash : '/' ∉ side) (hne : strip side ≠ []) :
    CanonicalName (String.ofList (lower (strip side))) := by
  have hstripped : IsLatin1 (strip side) := isLatin1_trimBy isBlank hlatin
  have hsingle : ∀ {sep : Char}, sep.toNat < 0x61 → sep ∉ side → sep ∉ lower (strip side) :=
    fun hsep hside hmem => hside (mem_of_mem_trimBy (mem_of_mem_lower hsep hmem))
  have hform : ∀ {c}, c ∈ lower (strip side) → isLatin1 c = true ∧ isCapital c = false := by
    intro c hc
    rw [lower_of_isLatin1 hstripped] at hc
    obtain ⟨d, hd, rfl⟩ := List.mem_map.mp hc
    exact ⟨isLatin1_small (hstripped d hd), isCapital_small (hstripped d hd)⟩
  constructor
  · exact fun hempty => hne (lower_eq_nil_iff.mp (String.ofList_eq_empty_iff.mp hempty))
  all_goals rw [String.toList_ofList]
  · exact fun c hc => (hform hc).1
  · exact hsingle (by decide) hcomma
  · exact hsingle (by decide) hsemicolon
  · exact hsingle (by decide) hslash
  · exact fun c hc => (hform hc).2
  · exact trimmed_lower hstripped (trimmed_trimBy isBlank side)

end CanonicalName

namespace MediaType

/-- The media type that an essence declares where it stands alone: the same names with full quality
and without parameters. -/
def canonical (m : MediaType) (position : Nat) : MediaType :=
  { m with quality := .full, order := position, parameters := [] }

@[simp] theorem essence_canonical (m : MediaType) (position : Nat) :
    (m.canonical position).essence = m.essence := rfl

end MediaType

namespace Accept

open MediaType

variable {piece : List Char} {position : Nat} {m : MediaType} {text : String}

theorem mem_of_mem_essenceText {c : Char} (hc : c ∈ essenceText piece) :
    c ∈ piece.takeWhile (· ≠ ';') ∨ c = '*' ∨ c = '/' := by
  unfold essenceText expandWildcard at hc
  split at hc
  · simp only [List.mem_cons, List.not_mem_nil, or_false] at hc
    rcases hc with hc | hc | hc
    · exact .inr (.inl hc)
    · exact .inr (.inr hc)
    · exact .inr (.inl hc)
  · exact .inl (mem_of_mem_trimBy hc)

/-- Both names of a media type that a piece declares are canonical. -/
theorem Declares.canonicalName (h : Declares piece position m) (hlatin : IsLatin1 piece)
    (hcomma : ',' ∉ piece) : CanonicalName m.type ∧ CanonicalName m.subtype := by
  obtain ⟨left, right, numbers, hreads, htype, hsubtype, -⟩ := h.reads
  -- a side holds what stands before the first semicolon, or a part of the full wildcard
  have hside : ∀ c ∈ essenceText piece, isLatin1 c = true ∧ c ≠ ',' ∧ c ≠ ';' := by
    intro c hc
    rcases mem_of_mem_essenceText hc with hc | rfl | rfl
    · have hmem : c ∈ piece := (List.takeWhile_sublist _).mem hc
      have hbefore := List.mem_takeWhile_imp (p := fun c => decide (c ≠ ';')) hc
      exact ⟨hlatin c hmem, fun h => hcomma (h ▸ hmem), of_decide_eq_true hbefore⟩
    · decide
    · decide
  rw [hreads.essence] at hside
  have hleft : ∀ c ∈ left, isLatin1 c = true ∧ c ≠ ',' ∧ c ≠ ';' :=
    fun c hc => hside c (List.mem_append_left _ hc)
  have hright : ∀ c ∈ right, isLatin1 c = true ∧ c ≠ ',' ∧ c ≠ ';' :=
    fun c hc => hside c (List.mem_append_right _ (List.mem_cons_of_mem _ hc))
  rw [htype, hsubtype]
  exact ⟨.of_side (fun c hc => (hleft c hc).1) (fun hc => (hleft _ hc).2.1 rfl)
      (fun hc => (hleft _ hc).2.2 rfl) hreads.left_single hreads.left_ne,
    .of_side (fun c hc => (hright c hc).1) (fun hc => (hright _ hc).2.1 rfl)
      (fun hc => (hright _ hc).2.2 rfl) hreads.right_single hreads.right_ne⟩

theorem canonicalName_of_mem_parse (hlatin : IsLatin1 text.toList)
    (hm : m ∈ parse (some text)) : CanonicalName m.type ∧ CanonicalName m.subtype := by
  obtain ⟨piece, hpiece, position, hdeclares⟩ :=
    (declared_entriesFrom 0 (fields ',' text.toList)).exists_declares hm
  exact hdeclares.canonicalName (fun c hc => hlatin c (mem_of_mem_fields hpiece hc))
    (not_mem_of_mem_fields hpiece)

/-! ## Reading essences -/

theorem toList_essence (m : MediaType) :
    m.essence.toList = m.type.toList ++ '/' :: m.subtype.toList := by
  simp [essence]

/-- A character of an essence is one of a name or the slash. -/
theorem not_mem_essence {sep : Char} (hsep : sep ≠ '/') (htype : sep ∉ m.type.toList)
    (hsubtype : sep ∉ m.subtype.toList) : sep ∉ m.essence.toList := by
  rw [toList_essence]
  grind

/-- An essence of canonical names declares these names. -/
theorem declaration?_essence (htype : CanonicalName m.type) (hsubtype : CanonicalName m.subtype)
    (position : Nat) : declaration? position m.essence.toList = some (m.canonical position) := by
  have hsemicolon : ';' ∉ m.essence.toList :=
    not_mem_essence (by decide) htype.semicolon hsubtype.semicolon
  have hwhole : m.essence.toList.takeWhile (· ≠ ';') = m.essence.toList :=
    List.takeWhile_eq_self_iff.mpr fun c hc =>
      decide_eq_true fun heq => hsemicolon (heq ▸ hc)
  have hstrip : strip m.essence.toList = m.essence.toList := by
    rw [toList_essence]
    exact (htype.trimmed.append hsubtype.trimmed htype.toList_ne_nil hsubtype.toList_ne_nil
      ['/']).trimBy_eq
  have hessence : essenceText m.essence.toList = m.type.toList ++ '/' :: m.subtype.toList := by
    have hlone : m.essence.toList ≠ ['*'] := by
      intro h
      have hslash : '/' ∈ m.essence.toList := by simp [toList_essence]
      rw [h] at hslash
      exact absurd hslash (by decide)
    rw [essenceText, hwhole, hstrip, expandWildcard, if_neg hlone, toList_essence]
  have hnothing : parameterTexts m.essence.toList = [] := by
    rw [parameterTexts, fields_of_not_mem hsemicolon]
    rfl
  have hname : ∀ {name : String}, CanonicalName name →
      name = String.ofList (lower (strip name.toList)) := by
    intro name h
    rw [h.strip_toList, h.lower_toList, String.ofList_toList]
  refine declaration?_eq_some_iff.mpr ⟨m.type.toList, m.subtype.toList, [],
    ⟨hessence, htype.slash, hsubtype.slash⟩, ⟨?_, List.not_mem_nil⟩, hname htype,
    hname hsubtype, rfl, rfl, ?_⟩
  · rw [parametersNamed, hnothing]
    rfl
  · rw [declaredParameters, hnothing]
    rfl

theorem entriesFrom_essences {ms : List MediaType}
    (h : ∀ m ∈ ms, CanonicalName m.type ∧ CanonicalName m.subtype) (position : Nat) :
    entriesFrom position (ms.map (·.essence.toList)) =
      ms.mapIdx fun i m => m.canonical (position + i) := by
  induction ms generalizing position with
  | nil => rfl
  | cons m rest ih =>
      obtain ⟨htype, hsubtype⟩ := h m List.mem_cons_self
      rw [List.map_cons, entriesFrom, declaration?_essence htype hsubtype,
        ih (fun m hm => h m (List.mem_cons_of_mem _ hm)), List.mapIdx_cons]
      simp only [Option.toList_some, List.singleton_append, Nat.add_zero, Nat.add_assoc,
        Nat.add_comm 1]

/-! ## The canonical form of a header -/

/-- The essences that a header declares, with commas between them. -/
def canonicalText (header : Option String) : String :=
  ",".intercalate ((parse header).map essence)

/-- Media types with canonical names are read from their essences one by one. -/
theorem parse_intercalate_essences {ms : List MediaType}
    (h : ∀ m ∈ ms, CanonicalName m.type ∧ CanonicalName m.subtype) :
    parse (some (",".intercalate (ms.map essence))) =
      ms.mapIdx fun i m => m.canonical i := by
  have htext : (",".intercalate (ms.map essence)).toList =
      joinWith ',' (ms.map (·.essence.toList)) := by
    rw [String.toList_intercalate, List.map_map]
    exact intercalate_eq_joinWith ',' _
  rw [parse, htext]
  cases ms with
  | nil => decide +kernel
  | cons m rest =>
      have hcomma : ∀ part ∈ (m :: rest).map (·.essence.toList), ',' ∉ part := by
        intro part hpart
        obtain ⟨n, hn, rfl⟩ := List.mem_map.mp hpart
        exact not_mem_essence (by decide) (h n hn).1.comma (h n hn).2.comma
      rw [fields_joinWith (by simp) hcomma, entriesFrom_essences h]
      simp only [Nat.zero_add]

theorem parse_canonicalText (hlatin : IsLatin1 text.toList) :
    parse (some (canonicalText (some text))) =
      (parse (some text)).mapIdx fun i m => m.canonical i :=
  parse_intercalate_essences fun _ hm => canonicalName_of_mem_parse hlatin hm

/-- The canonical form of a header is its own canonical form. -/
theorem canonicalText_canonicalText (hlatin : IsLatin1 text.toList) :
    canonicalText (some (canonicalText (some text))) = canonicalText (some text) := by
  have hessences : ((parse (some text)).mapIdx fun i m => m.canonical i).map essence =
      (parse (some text)).map essence :=
    List.ext_getElem (by simp) fun i _ _ => by simp
  rw [canonicalText, parse_canonicalText hlatin, hessences, canonicalText]

/-- What a header of one byte per character declares is read again from its canonical form: the
same names in the same order, with full quality, without parameters and at positions without gaps.
Every single essence can be read back as well, and the names in it are canonical. -/
theorem parse_essences (hlatin : IsLatin1 text.toList) :
    parse (some (canonicalText (some text))) =
        ((parse (some text)).mapIdx fun i m => m.canonical i) ∧
      ∀ m ∈ parse (some text), MediaType.ofText (some m.essence) = .ok (m.canonical 0) ∧
        CanonicalName m.type ∧ CanonicalName m.subtype := by
  refine ⟨parse_canonicalText hlatin, fun m hm => ?_⟩
  have hnames := canonicalName_of_mem_parse hlatin hm
  have hsingle : ∀ n ∈ [m], CanonicalName n.type ∧ CanonicalName n.subtype :=
    fun n hn => List.mem_singleton.mp hn ▸ hnames
  have hread := parse_intercalate_essences hsingle
  rw [List.map_singleton, String.intercalate_singleton, List.mapIdx_cons, List.mapIdx_nil] at hread
  exact ⟨MediaType.ofText_eq_ok_iff.mpr hread, hnames⟩

/-- Of a header with a lone wildcard, an accented capital letter and two malformed pieces, four
essences are left. -/
theorem parse_essences_sample :
    (parse (some "TEXT/Html;level=1;q=0.5, *;q=0.8,,a/b/c, \u00C4/X ,a/b")).map essence =
        ["text/html", "*/*", "\u00E4/x", "a/b"] ∧
      (parse (some "TEXT/Html;level=1;q=0.5, *;q=0.8,,a/b/c, \u00C4/X ,a/b")).map (·.order) =
        [0, 1, 4, 5] ∧
      (parse (some "text/html,*/*,\u00E4/x,a/b")).map (·.order) = [0, 1, 2, 3] := by
  have hessences :
      (parse (some "TEXT/Html;level=1;q=0.5, *;q=0.8,,a/b/c, \u00C4/X ,a/b")).map essence =
        ["text/html", "*/*", "\u00E4/x", "a/b"] := by decide +kernel
  have hlatin : IsLatin1 "TEXT/Html;level=1;q=0.5, *;q=0.8,,a/b/c, \u00C4/X ,a/b".toList := by
    simp [isLatin1]
  have hread := (parse_essences hlatin).1
  have hjoined : canonicalText (some "TEXT/Html;level=1;q=0.5, *;q=0.8,,a/b/c, \u00C4/X ,a/b") =
      "text/html,*/*,\u00E4/x,a/b" := by
    rw [canonicalText, hessences]
    decide +kernel
  rw [hjoined] at hread
  refine ⟨hessences, by decide +kernel, ?_⟩
  rw [hread]
  decide +kernel

end Accept

end SignOut
