import SignOut.Proofs.Serving
import SignOut.Proofs.Variation

/-!
# Selection by accepted media types

A matcher of media types goes through the acceptable types of a header from the preferred one on,
passes over the ignored ones and stops at the first that fits.  The answer shows nothing of the
order in which it looks: it is whether some acceptable type is not ignored and fits.  It therefore
depends on the names of the acceptable types only, and neither on their order and their qualities
nor on how the configured and the ignored types are listed.  A header that accepts nothing leaves
the matcher with the full wildcard, as if there were no header.
-/

namespace SignOut

open Numeric Text

namespace MediaType

variable {a b c d : MediaType}

/-! ## Names and coverage -/

/-- Type and subtype side by side. -/
def names (a : MediaType) : String × String :=
  (a.type, a.subtype)

theorem essence_eq_of_names (h : a.names = b.names) : a.essence = b.essence := by
  obtain ⟨htype, hsubtype⟩ := Prod.mk.inj h
  rw [essence, essence, htype, hsubtype]

/-- The first media type covers the second: it is the full wildcard, or they share the type and the
first has the wildcard or the same name as its subtype. -/
inductive Covers (a b : MediaType) : Prop
  | everything (h : a.type = "*")
  | subtypes (htype : a.type = b.type) (h : a.subtype = "*")
  | same (htype : a.type = b.type) (h : a.subtype = b.subtype)

theorem includes_iff : a.includes b = true ↔ Covers a b := by
  unfold includes isWildcardType isWildcardSubtype
  simp only [Bool.or_eq_true, Bool.and_eq_true, beq_iff_eq]
  constructor
  · rintro (h | ⟨htype, h | h⟩)
    · exact .everything h
    · exact .subtypes htype h
    · exact .same htype h
  · rintro (h | ⟨htype, h⟩ | ⟨htype, h⟩)
    · exact .inl h
    · exact .inr ⟨htype, .inl h⟩
    · exact .inr ⟨htype, .inr h⟩

/-- One of two media types covers the other. -/
def Compatible (a b : MediaType) : Prop := Covers a b ∨ Covers b a

theorem isCompatibleWith_iff : a.isCompatibleWith b = true ↔ Compatible a b := by
  rw [isCompatibleWith, Bool.or_eq_true, includes_iff, includes_iff]
  rfl

theorem Covers.of_names (hac : a.names = c.names) (hbd : b.names = d.names) (h : Covers a b) :
    Covers c d := by
  obtain ⟨htypeA, hsubtypeA⟩ := Prod.mk.inj hac
  obtain ⟨htypeB, hsubtypeB⟩ := Prod.mk.inj hbd
  cases h with
  | everything h => exact .everything (htypeA ▸ h)
  | subtypes htype h => exact .subtypes (by rw [← htypeA, ← htypeB, htype]) (hsubtypeA ▸ h)
  | same htype h =>
      exact .same (by rw [← htypeA, ← htypeB, htype]) (by rw [← hsubtypeA, ← hsubtypeB, h])

theorem Compatible.of_names (hac : a.names = c.names) (hbd : b.names = d.names)
    (h : Compatible a b) : Compatible c d :=
  h.imp (Covers.of_names hac hbd) (Covers.of_names hbd hac)

end MediaType

namespace Accept

open MediaType

variable {header header' : String} {piece piece' : List Char} {entry : MediaType}

/-! ## What a header accepts -/

/-- A media type is acceptable: a piece of the header declares it with a quality above zero. -/
def Acceptable (header : String) (entry : MediaType) : Prop :=
  ∃ piece ∈ fields ',' header.toList, ∃ position,
    Declares piece position entry ∧ Quality.zero < entry.quality

/-- A piece offers names: it declares a media type that has them, with a quality above zero. -/
def Offers (piece : List Char) (pair : String × String) : Prop :=
  ∃ position entry, Declares piece position entry ∧ Quality.zero < entry.quality ∧
    entry.names = pair

/-- Two headers accept media types of the same names, in whatever order and however often. -/
def AcceptAlike (header header' : String) : Prop :=
  ∀ pair, (∃ piece ∈ fields ',' header.toList, Offers piece pair) ↔
    ∃ piece ∈ fields ',' header'.toList, Offers piece pair

/-- Pieces that come from others by changing their order, and by restating one of them: the names
stay, while the positive quality and all further parameters may change. -/
inductive Rearranged : List (List Char) → List (List Char) → Prop
  | perm {pieces pieces' : List (List Char)} (h : pieces.Perm pieces') : Rearranged pieces pieces'
  | restated {piece piece' : List Char} (pair : String × String) (h : Offers piece pair)
      (h' : Offers piece' pair) (before after : List (List Char)) :
      Rearranged (before ++ piece :: after) (before ++ piece' :: after)
  | trans {pieces pieces' pieces'' : List (List Char)} (h : Rearranged pieces pieces')
      (h' : Rearranged pieces' pieces'') : Rearranged pieces pieces''

/-- What one piece declares, it declares under the same names and with the same quality at every
position. -/
theorem Declares.names_eq {position position' : Nat} {entry' : MediaType}
    (h : Declares piece position entry) (h' : Declares piece position' entry') :
    entry.names = entry'.names ∧ entry.quality = entry'.quality := by
  obtain ⟨htype, hsubtype, hquality⟩ := h.agrees h' (Respelled.refl piece)
  exact ⟨Prod.ext htype hsubtype, hquality⟩

/-- A piece offers one pair of names at most. -/
theorem Offers.unique {pair pair' : String × String} (h : Offers piece pair)
    (h' : Offers piece pair') : pair = pair' := by
  obtain ⟨_, entry, hdeclares, -, rfl⟩ := h
  obtain ⟨_, entry', hdeclares', -, rfl⟩ := h'
  exact (hdeclares.names_eq hdeclares').1

instance (piece : List Char) (pair : String × String) : Decidable (Offers piece pair) :=
  decidable_of_iff
      (∃ entry ∈ (declaration? 0 piece).toList, Quality.zero < entry.quality ∧ entry.names = pair)
      <| by
    constructor
    · rintro ⟨entry, hread, hoffers⟩
      exact ⟨0, entry, declares_of_declaration? (Option.mem_toList.mp hread), hoffers⟩
    · rintro ⟨position, entry, hdeclares, hpositive, hnames⟩
      obtain ⟨entry₀, hread⟩ := exists_declaration?_of_wellFormed (wellFormed_of_declares hdeclares) 0
      obtain ⟨hsame, hquality⟩ := hdeclares.names_eq (declares_of_declaration? hread)
      exact ⟨entry₀, Option.mem_toList.mpr hread, hquality ▸ hpositive, hsame ▸ hnames⟩

/-- The names that pieces offer are the same in every arrangement. -/
theorem Rearranged.offers_iff {pieces pieces' : List (List Char)} (h : Rearranged pieces pieces')
    (pair : String × String) :
    (∃ piece ∈ pieces, Offers piece pair) ↔ ∃ piece ∈ pieces', Offers piece pair := by
  induction h with
  | perm h => simp only [h.mem_iff]
  | @restated piece piece' _ h h' before after =>
      have hsame : Offers piece pair ↔ Offers piece' pair :=
        ⟨fun hoffers => h.unique hoffers ▸ h', fun hoffers => h'.unique hoffers ▸ h⟩
      simp only [List.mem_append, List.mem_cons, or_and_right, exists_or, exists_eq_left, hsame]
  | trans _ _ ih ih' => exact ih.trans ih'

theorem Rearranged.acceptAlike
    (h : Rearranged (fields ',' header.toList) (fields ',' header'.toList)) :
    AcceptAlike header header' :=
  h.offers_iff

theorem AcceptAlike.symm (h : AcceptAlike header header') : AcceptAlike header' header :=
  fun pair => (h pair).symm

/-- Headers that accept alike have acceptable media types of the same names. -/
theorem AcceptAlike.exists_acceptable (h : AcceptAlike header header')
    (hentry : Acceptable header entry) :
    ∃ entry', Acceptable header' entry' ∧ entry.names = entry'.names := by
  obtain ⟨piece, hpiece, position, hdeclares, hpositive⟩ := hentry
  obtain ⟨piece', hpiece', position', entry', hdeclares', hpositive', hnames⟩ :=
    (h entry.names).mp ⟨piece, hpiece, position, entry, hdeclares, hpositive, rfl⟩
  exact ⟨entry', ⟨piece', hpiece', position', hdeclares', hpositive'⟩, hnames.symm⟩

/-- What a piece declares is read from it wherever it stands. -/
theorem Declared.exists_mem {start position : Nat} {pieces : List (List Char)}
    {ms : List MediaType} (h : Declared start pieces ms) (hpiece : piece ∈ pieces)
    (hdeclares : Declares piece position entry) :
    ∃ m ∈ ms, entry.names = m.names ∧ entry.quality = m.quality := by
  induction h with
  | nil => cases hpiece
  | wellFormed hfirst _ ih =>
      rcases List.mem_cons.mp hpiece with rfl | hrest
      · exact ⟨_, List.mem_cons_self, hdeclares.names_eq hfirst⟩
      · obtain ⟨m, hm, hsame⟩ := ih hrest
        exact ⟨m, List.mem_cons_of_mem _ hm, hsame⟩
  | malformed hfirst _ ih =>
      rcases List.mem_cons.mp hpiece with rfl | hrest
      · exact absurd (wellFormed_of_declares hdeclares) hfirst
      · exact ih hrest

/-- The positive entries that are read from a header are acceptable. -/
theorem acceptable_of_mem_positive (h : entry ∈ positive (some header)) :
    Acceptable header entry := by
  obtain ⟨hread, hpositive⟩ := mem_positive.mp h
  obtain ⟨piece, hpiece, position, hdeclares⟩ := (declared_entriesFrom 0 _).exists_declares hread
  exact ⟨piece, hpiece, position, hdeclares, hpositive⟩

/-- Every acceptable media type is among them, under its names. -/
theorem exists_mem_positive_of_acceptable (h : Acceptable header entry) :
    ∃ m ∈ positive (some header), entry.names = m.names := by
  obtain ⟨piece, hpiece, position, hdeclares, hpositive⟩ := h
  obtain ⟨m, hm, hnames, hquality⟩ := (declared_entriesFrom 0 _).exists_mem hpiece hdeclares
  exact ⟨m, mem_positive.mpr ⟨hm, hquality ▸ hpositive⟩, hnames⟩

/-- A header accepts nothing if all its pieces are idle: malformed, or of no positive quality. -/
theorem forall_idle_iff :
    (∀ piece ∈ fields ',' header.toList, Idle piece) ↔ ∀ entry, ¬ Acceptable header entry := by
  constructor
  · rintro hidle entry ⟨piece, hpiece, position, hdeclares, hpositive⟩
    exact hidle piece hpiece position entry hdeclares hpositive
  · intro hnone piece hpiece position entry hdeclares hpositive
    exact hnone entry ⟨piece, hpiece, position, hdeclares, hpositive⟩

theorem positive_eq_nil_iff :
    positive (some header) = [] ↔ ∀ piece ∈ fields ',' header.toList, Idle piece := by
  rw [forall_idle_iff]
  constructor
  · intro hnil entry hentry
    obtain ⟨m, hm, -⟩ := exists_mem_positive_of_acceptable hentry
    rw [hnil] at hm
    cases hm
  · intro hnone
    exact List.eq_nil_iff_forall_not_mem.mpr fun m hm => hnone m (acceptable_of_mem_positive hm)

end Accept

namespace MediaMatcher

open Accept MediaType

variable {m m' : MediaMatcher} {entry entry' : MediaType} {header : String} {e : Exchange}

/-! ## The selected types -/

/-- A matcher selects an accepted type: its essence is that of no ignored type, and a configured
type has the same essence, if the matcher compares exactly, or else is compatible with it. -/
structure Selects (m : MediaMatcher) (entry : MediaType) : Prop where
  heeded : ∀ ignored ∈ m.ignored, entry.essence ≠ ignored.essence
  equal : m.exact.isOn = true → ∃ candidate ∈ m.types, entry.essence = candidate.essence
  compatible : m.exact.isOn = false → ∃ candidate ∈ m.types, candidate.Compatible entry

theorem ignores_eq_false_iff :
    m.ignores entry = false ↔ ∀ ignored ∈ m.ignored, entry.essence ≠ ignored.essence := by
  unfold ignores
  simp only [List.any_eq_false, beq_iff_eq, ne_eq]

theorem selects_iff :
    m.Selects entry ↔ m.ignores entry = false ∧ m.types.any (m.fits entry) = true := by
  have hfits : m.types.any (m.fits entry) = true ↔
      (m.exact.isOn = true → ∃ candidate ∈ m.types, entry.essence = candidate.essence) ∧
      (m.exact.isOn = false → ∃ candidate ∈ m.types, candidate.Compatible entry) := by
    rw [List.any_eq_true]
    unfold fits
    cases m.exact.isOn with
    | true => simp
    | false => simp [isCompatibleWith_iff]
  rw [ignores_eq_false_iff, hfits]
  exact ⟨fun h => ⟨h.heeded, h.equal, h.compatible⟩, fun ⟨h, h', h''⟩ => ⟨h, h', h''⟩⟩

instance (m : MediaMatcher) (entry : MediaType) : Decidable (m.Selects entry) :=
  decidable_of_iff _ selects_iff.symm

/-- Looking through types ends with success exactly if one of them is selected. -/
theorem scan_eq_true_iff (entries : List MediaType) :
    m.scan entries = true ↔ ∃ entry ∈ entries, m.Selects entry := by
  induction entries with
  | nil => simp [scan]
  | cons entry rest ih =>
      have hhead := @selects_iff m entry
      simp only [scan, List.mem_cons, exists_eq_or_imp, ← ih, hhead]
      cases m.ignores entry with
      | true => simp
      | false =>
          cases m.types.any (m.fits entry) with
          | true => simp
          | false => simp

/-- The order of preference does not matter for the answer. -/
theorem matchesAccept_eq_true_iff {accept : Option String} :
    m.matchesAccept accept = true ↔ ∃ entry ∈ accepted accept, m.Selects entry := by
  unfold matchesAccept
  simp only [scan_eq_true_iff, List.mem_mergeSort]

theorem accepted_eq_positive {accept : Option String} (h : positive accept ≠ []) :
    accepted accept = positive accept := by
  unfold accepted
  simp only [Quality.isPositive_eq]
  split
  · rename_i hnil
    exact absurd hnil h
  · rfl

theorem accepted_eq_all {accept : Option String} (h : positive accept = []) :
    accepted accept = [MediaType.all] := by
  unfold accepted
  simp only [Quality.isPositive_eq]
  rw [show (parse accept).filter (fun m => decide (Quality.zero < m.quality)) = [] from h]

/-! ## What the answer depends on -/

/-- A matcher selects by names. -/
theorem Selects.of_names (hnames : entry.names = entry'.names) (h : m.Selects entry) :
    m.Selects entry' := by
  have hessence := essence_eq_of_names hnames
  refine ⟨hessence ▸ h.heeded, hessence ▸ h.equal, fun hloose => ?_⟩
  obtain ⟨candidate, hcandidate, hcompatible⟩ := h.compatible hloose
  exact ⟨candidate, hcandidate, hcompatible.of_names rfl hnames⟩

/-- Two matchers compare in the same way, and have configured and ignored types of the same names,
in whatever order and however often. -/
structure SameTypes (m m' : MediaMatcher) : Prop where
  exact : m.exact.isOn = m'.exact.isOn
  types : ∀ pair, pair ∈ m.types.map names ↔ pair ∈ m'.types.map names
  ignored : ∀ pair, pair ∈ m.ignored.map names ↔ pair ∈ m'.ignored.map names

theorem SameTypes.symm (h : m.SameTypes m') : m'.SameTypes m :=
  ⟨h.exact.symm, fun pair => (h.types pair).symm, fun pair => (h.ignored pair).symm⟩

/-- A type of the one list is in the other one under its names. -/
theorem exists_mem_of_names {ts ts' : List MediaType}
    (h : ∀ pair, pair ∈ ts.map names ↔ pair ∈ ts'.map names) {t : MediaType} (ht : t ∈ ts) :
    ∃ t' ∈ ts', t.names = t'.names := by
  obtain ⟨t', ht', hnames⟩ := List.mem_map.mp ((h t.names).mp (List.mem_map_of_mem ht))
  exact ⟨t', ht', hnames.symm⟩

theorem Selects.of_sameTypes (hsame : m.SameTypes m') (h : m.Selects entry) :
    m'.Selects entry := by
  refine ⟨fun ignored hignored => ?_, fun hexact => ?_, fun hloose => ?_⟩
  · obtain ⟨t, ht, hnames⟩ := exists_mem_of_names hsame.symm.ignored hignored
    exact essence_eq_of_names hnames ▸ h.heeded t ht
  · obtain ⟨candidate, hcandidate, hequal⟩ := h.equal (hsame.exact.trans hexact)
    obtain ⟨t, ht, hnames⟩ := exists_mem_of_names hsame.types hcandidate
    exact ⟨t, ht, hequal.trans (essence_eq_of_names hnames)⟩
  · obtain ⟨candidate, hcandidate, hcompatible⟩ := h.compatible (hsame.exact.trans hloose)
    obtain ⟨t, ht, hnames⟩ := exists_mem_of_names hsame.types hcandidate
    exact ⟨t, ht, hcompatible.of_names hnames rfl⟩

/-- The answer for a header that was sent: some acceptable type is selected; or nothing is
acceptable, and the full wildcard is selected in its place. -/
theorem matchesAccept_some_eq_true_iff :
    m.matchesAccept (some header) = true ↔
      (∃ entry, Acceptable header entry ∧ m.Selects entry) ∨
        (∀ piece ∈ fields ',' header.toList, Idle piece) ∧ m.Selects MediaType.all := by
  rw [matchesAccept_eq_true_iff, ← positive_eq_nil_iff]
  by_cases hpositive : positive (some header) = []
  · have hnone := forall_idle_iff.mp (positive_eq_nil_iff.mp hpositive)
    rw [accepted_eq_all hpositive]
    simp only [List.mem_singleton, exists_eq_left, hpositive, true_and]
    exact ⟨Or.inr, fun h => h.resolve_left fun ⟨entry, hentry, _⟩ => hnone entry hentry⟩
  · rw [accepted_eq_positive hpositive]
    constructor
    · rintro ⟨entry, hentry, hselects⟩
      exact Or.inl ⟨entry, acceptable_of_mem_positive hentry, hselects⟩
    · rintro (⟨entry, hentry, hselects⟩ | ⟨hnil, -⟩)
      · obtain ⟨entry', hmem, hnames⟩ := exists_mem_positive_of_acceptable hentry
        exact ⟨entry', hmem, hselects.of_names hnames⟩
      · exact absurd hnil hpositive

/-- Where something is acceptable, the answer is whether some of it is selected. -/
theorem matchesAccept_iff_of_acceptable (h : ∃ entry, Acceptable header entry) :
    m.matchesAccept (some header) = true ↔ ∃ entry, Acceptable header entry ∧ m.Selects entry := by
  rw [matchesAccept_some_eq_true_iff, or_iff_left]
  rintro ⟨hidle, -⟩
  obtain ⟨entry, hentry⟩ := h
  exact forall_idle_iff.mp hidle entry hentry

/-- One of the acceptable types of a header is selected by another matcher, or of another header, if
the names are the same. -/
theorem exists_selected_of_same {header' : String} (hsame : m.SameTypes m')
    (halike : AcceptAlike header header')
    (h : ∃ entry, Acceptable header entry ∧ m.Selects entry) :
    ∃ entry, Acceptable header' entry ∧ m'.Selects entry := by
  obtain ⟨entry, hentry, hselects⟩ := h
  obtain ⟨entry', hentry', hnames⟩ := halike.exists_acceptable hentry
  exact ⟨entry', hentry', (hselects.of_names hnames).of_sameTypes hsame⟩

theorem exec_ask_media (m : MediaMatcher) (e : Exchange) :
    Run.exec (Matcher.ask (.atom (.media m))) e =
      (.ok (m.matchesAccept (e.request.headerValue? "accept")), e) := by
  have hlooked : e.request.header? "accept" = .ok (e.request.headerValue? "accept") :=
    Request.header?_of_isLatin1 Request.isLatin1_accept e.request
  exact Run.exec_bind_of_ok (Run.exec_header?_of_ok hlooked)

/-- A matcher that is asked about a request with acceptable types selects it exactly if one of these
types is selected.  Every matcher that compares in the same way with types of the same names gives
the same answer to every request that accepts the same names.  It does so whatever the order of the
pieces is, with whatever positive qualities, and with whatever further parameters. -/
theorem answer_iff_exists_selected (m : MediaMatcher) {header : String}
    (hheader : e.request.headerValue? "accept" = some header)
    (hsome : ∃ entry, Acceptable header entry) :
    ∃ answer, Run.exec (Matcher.ask (.atom (.media m))) e = (.ok answer, e) ∧
      (answer = true ↔ ∃ entry, Acceptable header entry ∧ m.Selects entry) ∧
      (∀ (m' : MediaMatcher) (e' : Exchange) (header' : String), m.SameTypes m' →
        e'.request.headerValue? "accept" = some header' → AcceptAlike header header' →
        Run.exec (Matcher.ask (.atom (.media m'))) e' = (.ok answer, e')) ∧
      ∀ header' : String, Rearranged (fields ',' header.toList) (fields ',' header'.toList) →
        AcceptAlike header header' := by
  refine ⟨m.matchesAccept (some header), hheader ▸ exec_ask_media m e,
    matchesAccept_iff_of_acceptable hsome, ?_, fun header' h => h.acceptAlike⟩
  intro m' e' header' hsame hheader' halike
  have hsome' : ∃ entry, Acceptable header' entry := by
    obtain ⟨entry, hentry⟩ := hsome
    obtain ⟨entry', hentry', -⟩ := halike.exists_acceptable hentry
    exact ⟨entry', hentry'⟩
  have hanswer : m'.matchesAccept (some header') = m.matchesAccept (some header) := by
    rw [Bool.eq_iff_iff, matchesAccept_iff_of_acceptable hsome,
      matchesAccept_iff_of_acceptable hsome']
    exact ⟨exists_selected_of_same hsame.symm halike.symm, exists_selected_of_same hsame halike⟩
  rw [exec_ask_media, hheader', hanswer]

/-- A request that accepts what a header says. -/
def accepting (header : String) : Exchange :=
  { Stage.sampleExchange with
    request := { Stage.sampleExchange.request with headers := [("accept", header)] } }

/-- A matcher of pages and data that does not heed the full wildcard. -/
def sampleMatcher : MediaMatcher :=
  { types := [textHtml, applicationJson], exact := .off, ignored := [MediaType.all] }

/-- The same types in another order, and repeated. -/
def sampleRelisted : MediaMatcher :=
  { types := [applicationJson, textHtml, applicationJson], exact := .blank
    ignored := [MediaType.all, MediaType.all] }

theorem answer_iff_exists_selected_sample :
    (∃ entry, Acceptable "*/*, text/*;q=0.1;level=2" entry) ∧
      Run.exec (Matcher.ask (.atom (.media sampleMatcher)))
        (accepting "*/*, text/*;q=0.1;level=2") =
          (.ok true, accepting "*/*, text/*;q=0.1;level=2") ∧
      sampleMatcher.SameTypes sampleRelisted ∧
      Rearranged (fields ',' "*/*, text/*;q=0.1;level=2".toList)
        (fields ',' "Text/*, */*;q=0.5".toList) ∧
      Run.exec (Matcher.ask (.atom (.media sampleRelisted))) (accepting "Text/*, */*;q=0.5") =
        (.ok true, accepting "Text/*, */*;q=0.5") := by
  have hselected : ∃ entry ∈ positive (some "*/*, text/*;q=0.1;level=2"),
      sampleMatcher.Selects entry := by
    decide +kernel
  obtain ⟨entry, hmem, hselects⟩ := hselected
  have hentry := acceptable_of_mem_positive hmem
  have hsame : sampleMatcher.SameTypes sampleRelisted := by
    refine ⟨rfl, fun pair => ?_, fun pair => ?_⟩
    · simp [sampleMatcher, sampleRelisted, or_comm]
    · simp [sampleMatcher, sampleRelisted]
  have hpieces : fields ',' "*/*, text/*;q=0.1;level=2".toList =
      ["*/*".toList, " text/*;q=0.1;level=2".toList] := by
    decide +kernel
  have hpieces' : fields ',' "Text/*, */*;q=0.5".toList =
      ["Text/*".toList, " */*;q=0.5".toList] := by
    decide +kernel
  have hrearranged : Rearranged (fields ',' "*/*, text/*;q=0.1;level=2".toList)
      (fields ',' "Text/*, */*;q=0.5".toList) := by
    have hpages : Rearranged [" text/*;q=0.1;level=2".toList, "*/*".toList]
        ["Text/*".toList, "*/*".toList] :=
      .restated ("text", "*") (by decide +kernel) (by decide +kernel) [] ["*/*".toList]
    have hwildcard : Rearranged ["Text/*".toList, "*/*".toList]
        ["Text/*".toList, " */*;q=0.5".toList] :=
      .restated ("*", "*") (by decide +kernel) (by decide +kernel) ["Text/*".toList] []
    rw [hpieces, hpieces']
    exact (Rearranged.perm (.swap _ _ _)).trans (hpages.trans hwildcard)
  obtain ⟨answer, hexec, hanswer, hothers, halike⟩ := answer_iff_exists_selected sampleMatcher
    (e := accepting "*/*, text/*;q=0.1;level=2") rfl ⟨entry, hentry⟩
  obtain rfl : answer = true := hanswer.mpr ⟨entry, hentry, hselects⟩
  exact ⟨⟨entry, hentry⟩, hexec, hsame, hrearranged,
    hothers _ _ _ hsame rfl (halike _ hrearranged)⟩

/-! ## Headers that accept nothing -/

/-- The full wildcard is selected: it is none of the ignored types, and if the matcher compares
exactly, it is one of the configured types. -/
structure SelectsAll (m : MediaMatcher) : Prop where
  heeded : ∀ ignored ∈ m.ignored, ignored.essence ≠ "*/*"
  equal : m.exact.isOn = true → ∃ candidate ∈ m.types, candidate.essence = "*/*"

theorem selects_all_iff (htypes : m.types ≠ []) : m.Selects MediaType.all ↔ m.SelectsAll := by
  have hessence : MediaType.all.essence = "*/*" := by decide
  constructor
  · intro h
    refine ⟨fun ignored hignored heq => h.heeded ignored hignored (hessence.trans heq.symm), ?_⟩
    intro hexact
    obtain ⟨candidate, hcandidate, heq⟩ := h.equal hexact
    exact ⟨candidate, hcandidate, heq.symm.trans hessence⟩
  · intro h
    refine ⟨fun ignored hignored heq => h.heeded ignored hignored (heq.symm.trans hessence), ?_, ?_⟩
    · intro hexact
      obtain ⟨candidate, hcandidate, heq⟩ := h.equal hexact
      exact ⟨candidate, hcandidate, hessence.trans heq.symm⟩
    · intro _
      obtain ⟨candidate, hcandidate⟩ := List.exists_mem_of_ne_nil _ htypes
      exact ⟨candidate, hcandidate, .inr (.everything rfl)⟩

variable {texts ignoredTexts : List (Option String)} {exact : Switch}

/-- A matcher that could be made has a type. -/
theorem types_ne_nil_of_ofMedia
    (hmade : Matcher.ofMedia texts exact ignoredTexts = .ok (.atom (.media m))) :
    m.types ≠ [] := by
  unfold Matcher.ofMedia at hmade
  split at hmade
  · cases hmade
  · rename_i htexts
    obtain ⟨types, htypes, hmade⟩ := Checks.bind_eq_ok_iff.mp hmade
    obtain ⟨ignored, -, hmade⟩ := Checks.bind_eq_ok_iff.mp hmade
    cases hmade
    have hlength := Checks.length_eq_of_mapM (Checks.mapError_eq_ok_iff.mp htypes)
    rintro rfl
    exact htexts (List.eq_nil_of_length_eq_zero hlength.symm)

/-- A matcher that is asked about a request with a header selects it only if one of the acceptable
types is selected, with one exception: to a header whose pieces are all idle it answers as if there
were no header, and so selects the request whenever the full wildcard is selected. -/
theorem answer_or_countsAsAll
    (hmade : Matcher.ofMedia texts exact ignoredTexts = .ok (.atom (.media m)))
    (hheader : e.request.headerValue? "accept" = some header) :
    ∃ answer, Run.exec (Matcher.ask (.atom (.media m))) e = (.ok answer, e) ∧
      (answer = true ↔ (∃ entry, Acceptable header entry ∧ m.Selects entry) ∨
        (∀ piece ∈ fields ',' header.toList, Idle piece) ∧ m.SelectsAll) ∧
      ((∀ piece ∈ fields ',' header.toList, Idle piece) → ∀ e' : Exchange,
        e'.request.headerValue? "accept" = none →
          Run.exec (Matcher.ask (.atom (.media m))) e' = (.ok answer, e')) := by
  refine ⟨m.matchesAccept (some header), hheader ▸ exec_ask_media m e, ?_, ?_⟩
  · rw [matchesAccept_some_eq_true_iff, selects_all_iff (types_ne_nil_of_ofMedia hmade)]
  · intro hidle e' hmissing
    have hsame : m.matchesAccept none = m.matchesAccept (some header) := by
      unfold matchesAccept
      rw [accepted_eq_all (positive_eq_nil_iff.mpr hidle), accepted_eq_all rfl]
    rw [exec_ask_media, hmissing, hsame]

/-- A matcher of pages alone. -/
def pagesOnly : MediaMatcher := { types := [textHtml], exact := .off, ignored := [] }

theorem ofMedia_pagesOnly :
    Matcher.ofMedia [some "text/html"] .off [] = .ok (.atom (.media pagesOnly)) := by
  have hparse : parse (some "text/html") = [textHtml] := by decide +kernel
  have hread : MediaType.ofText (some "text/html") = .ok textHtml := by
    unfold MediaType.ofText
    rw [hparse]
  unfold Matcher.ofMedia Matcher.mediaTypes
  rw [List.mapM_cons, hread]
  rfl

/-- It selects a request that accepts pages, and none that refuses them and accepts something else. -/
theorem answer_or_countsAsAll_sample :
    Run.exec (Matcher.ask (.atom (.media pagesOnly))) (accepting "text/*, image/png;q=0") =
        (.ok true, accepting "text/*, image/png;q=0") ∧
      Run.exec (Matcher.ask (.atom (.media pagesOnly))) (accepting "image/png, text/html;q=0") =
        (.ok false, accepting "image/png, text/html;q=0") := by
  constructor
  · obtain ⟨answer, hexec, hanswer, -⟩ := answer_or_countsAsAll ofMedia_pagesOnly
      (e := accepting "text/*, image/png;q=0") rfl
    have hselected : ∃ entry ∈ positive (some "text/*, image/png;q=0"),
        pagesOnly.Selects entry := by
      decide +kernel
    obtain ⟨entry, hmem, hselects⟩ := hselected
    obtain rfl : answer = true :=
      hanswer.mpr (Or.inl ⟨entry, acceptable_of_mem_positive hmem, hselects⟩)
    exact hexec
  · obtain ⟨answer, hexec, hanswer, -⟩ := answer_or_countsAsAll ofMedia_pagesOnly
      (e := accepting "image/png, text/html;q=0") rfl
    have hnone : ∀ entry ∈ positive (some "image/png, text/html;q=0"),
        ¬ pagesOnly.Selects entry := by
      decide +kernel
    have hbusy : ¬ ∀ piece ∈ fields ',' "image/png, text/html;q=0".toList, Idle piece := by
      decide +kernel
    have hrefused : answer ≠ true := by
      intro h
      rcases hanswer.mp h with ⟨entry, hentry, hselects⟩ | ⟨hidle, -⟩
      · obtain ⟨entry', hmem, hnames⟩ := exists_mem_positive_of_acceptable hentry
        exact hnone entry' hmem (hselects.of_names hnames)
      · exact hbusy hidle
    obtain rfl : answer = false := Bool.eq_false_iff.mpr hrefused
    exact hexec

/-- A header that refuses pages and one without a well-formed piece accept nothing, and yet a matcher
of pages selects both requests, and its route is taken. -/
theorem selects_refusedPages :
    ((∀ piece ∈ fields ',' "text/html;q=0".toList, Idle piece) ∧
      Run.exec (Matcher.ask (.atom (.media pagesOnly))) (accepting "text/html;q=0") =
        (.ok true, accepting "text/html;q=0") ∧
      Run.exec (Success.select (.routed [(.atom (.media pagesOnly), .answer (.status (some 204)))]
          (.answer (.redirect "/login")))) (accepting "text/html;q=0") =
        (.ok (.answer (.status (some 204))), accepting "text/html;q=0")) ∧
    (∀ piece ∈ fields ',' "garbage".toList, Idle piece) ∧
      Run.exec (Matcher.ask (.atom (.media pagesOnly))) (accepting "garbage") =
        (.ok true, accepting "garbage") := by
  have hwildcard : pagesOnly.Selects MediaType.all := by decide +kernel
  have hselected : ∀ header : String, (∀ piece ∈ fields ',' header.toList, Idle piece) →
      Run.exec (Matcher.ask (.atom (.media pagesOnly))) (accepting header) =
        (.ok true, accepting header) := by
    intro header hidle
    have hanswer : pagesOnly.matchesAccept (some header) = true :=
      matchesAccept_some_eq_true_iff.mpr (Or.inr ⟨hidle, hwildcard⟩)
    rw [← hanswer]
    exact exec_ask_media pagesOnly (accepting header)
  have hrefusing : ∀ piece ∈ fields ',' "text/html;q=0".toList, Idle piece := by decide +kernel
  have hgarbage : ∀ piece ∈ fields ',' "garbage".toList, Idle piece := by decide +kernel
  exact ⟨⟨hrefusing, hselected _ hrefusing, Run.exec_bind_of_ok (hselected _ hrefusing)⟩,
    hgarbage, hselected _ hgarbage⟩

end MediaMatcher

end SignOut
