import SignOut.Proofs.MediaSelection

/-!
# Refusal of media types

A text that is to name one media type is read as a header would be, and judged by the number of
media types that come out of it.  Blank pieces do not count, and neither do malformed ones, because
a header may hold them.  Main statement: a text is refused exactly if it has no well-formed piece or
several; so a malformed piece is noticed unless exactly one well-formed piece stands beside it.  The
matcher of media types can be made iff none of its texts is refused, and otherwise it reports the
first text that is.
-/

namespace SignOut

open Text

namespace Accept

/-! ## The pieces that are written in a text -/

instance (piece : List Char) : Decidable (WellFormed piece) :=
  decidable_of_iff ((declaration? 0 piece).isSome = true) <| by
    rw [Option.isSome_iff_exists]
    constructor
    · rintro ⟨m, hread⟩
      exact wellFormed_of_declares (declares_of_declaration? hread)
    · exact fun hwell => exists_declaration?_of_wellFormed hwell 0

/-- The pieces of a text between its commas; no text has none. -/
def pieces : Option String → List (List Char)
  | none => []
  | some text => fields ',' text.toList

/-- The pieces of a text that are not blank. -/
def written (text : Option String) : List (List Char) :=
  (pieces text).filter (strip · ≠ [])

/-- A text names one media type: it has a single piece that is not blank, and this is
well-formed. -/
def NamesOne (text : Option String) : Prop :=
  (written text).length = 1 ∧ ∀ piece ∈ written text, WellFormed piece

/-- A text names one media type beside something malformed: of several pieces that are not blank,
exactly one is well-formed. -/
def NamesOneBeside (text : Option String) : Prop :=
  1 < (written text).length ∧ (written text).countP (WellFormed ·) = 1

instance (text : Option String) : Decidable (NamesOne text) :=
  inferInstanceAs (Decidable (_ ∧ _))

instance (text : Option String) : Decidable (NamesOneBeside text) :=
  inferInstanceAs (Decidable (_ ∧ _))

variable {text : Option String} {piece : List Char} {m : MediaType}

theorem parse_eq (text : Option String) : parse text = entriesFrom 0 (pieces text) := by
  cases text with
  | none => rfl
  | some text => rfl

/-- A well-formed piece is not blank. -/
theorem WellFormed.strip_ne_nil (h : WellFormed piece) : strip piece ≠ [] := by
  intro hblank
  obtain ⟨m, hread⟩ := exists_declaration?_of_wellFormed h 0
  have hnothing : declaration? 0 piece = none := by
    unfold declaration?
    rw [hblank]
    rfl
  rw [hnothing] at hread
  cases hread

/-- As many media types are read as there are well-formed pieces. -/
theorem length_entriesFrom (position : Nat) (pieces : List (List Char)) :
    (entriesFrom position pieces).length = pieces.countP (WellFormed ·) := by
  induction pieces generalizing position with
  | nil => rfl
  | cons piece rest ih =>
      rw [entriesFrom, List.length_append, ih, List.countP_cons]
      cases hread : declaration? position piece with
      | none =>
          have hmalformed : ¬ WellFormed piece := declaration?_eq_none_iff.mp hread
          simp [hmalformed]
      | some m =>
          have hwell : WellFormed piece := wellFormed_of_declares (declares_of_declaration? hread)
          simp [hwell, Nat.add_comm]

theorem length_parse (text : Option String) :
    (parse text).length = (written text).countP (WellFormed ·) := by
  -- no blank piece is well-formed, so leaving the blank ones out changes no count
  rw [parse_eq, length_entriesFrom, written, List.countP_filter]
  refine List.countP_congr fun piece _ => ?_
  simpa using fun hwell => WellFormed.strip_ne_nil hwell

theorem namesOne_iff_countP :
    NamesOne text ↔
      (written text).length = 1 ∧ (written text).countP (WellFormed ·) = 1 := by
  refine and_congr_right fun hsingle => ?_
  rw [← hsingle, List.countP_eq_length]
  simp

/-- A text from which one media type is read names it alone or beside something malformed. -/
theorem length_parse_eq_one_iff :
    (parse text).length = 1 ↔ NamesOne text ∨ NamesOneBeside text := by
  have hbound := @List.countP_le_length _ (WellFormed ·) (written text)
  rw [length_parse, namesOne_iff_countP, NamesOneBeside]
  omega

end Accept

/-! ## Media types from texts -/

namespace MediaType

open Accept

variable {text : Option String} {m : MediaType} {rejection : Rejection}

theorem ofText_eq_ok_iff : ofText text = .ok m ↔ parse text = [m] := by
  unfold ofText
  split
  · rename_i read hparse
    rw [hparse, List.singleton_inj]
    exact ⟨Except.ok.inj, congrArg Except.ok⟩
  · rename_i hparse
    exact ⟨nofun, fun h => absurd h (hparse m)⟩

theorem exists_ofText_iff :
    (∃ m, ofText text = .ok m) ↔ NamesOne text ∨ NamesOneBeside text := by
  simp only [ofText_eq_ok_iff, ← List.length_eq_one_iff, length_parse_eq_one_iff]

theorem ofText_eq_error_iff :
    ofText text = .error rejection ↔
      ¬ (NamesOne text ∨ NamesOneBeside text) ∧ rejection = .notSingle text := by
  rw [← exists_ofText_iff]
  simp only [ofText_eq_ok_iff]
  unfold ofText
  split
  · rename_i read hparse
    exact ⟨nofun, fun h => absurd ⟨read, hparse⟩ h.1⟩
  · rename_i hparse
    constructor
    · intro h
      exact ⟨fun ⟨m, hm⟩ => hparse m hm, (Except.error.inj h).symm⟩
    · rintro ⟨-, rfl⟩
      rfl

/-- What is read from a text is what a piece of it declares. -/
theorem exists_declares_of_ofText (h : ofText text = .ok m) :
    ∃ piece ∈ written text, ∃ position, Declares piece position m := by
  have hmem : m ∈ entriesFrom 0 (pieces text) := by
    rw [← parse_eq, ofText_eq_ok_iff.mp h]
    exact List.mem_singleton_self m
  obtain ⟨piece, hpiece, position, hdeclares⟩ := (declared_entriesFrom 0 _).exists_declares hmem
  refine ⟨piece, List.mem_filter.mpr ⟨hpiece, ?_⟩, position, hdeclares⟩
  simpa using (wellFormed_of_declares hdeclares).strip_ne_nil

end MediaType

/-! ## Matchers of media types -/

namespace Matcher

open Accept

variable {texts types ignored : List (Option String)} {exact : Switch} {e : InvalidArgument}

/-- The refusal of a text in the place of a media type. -/
def refusedText (text : Option String) : InvalidArgument :=
  { argument := "media_types", fault := .malformedMediaType (.notSingle text) }

theorem mediaTypes_eq_ok_iff {ms : List MediaType} :
    mediaTypes texts = .ok ms ↔ texts.map MediaType.ofText = ms.map .ok :=
  Checks.mapError_eq_ok_iff.trans Checks.mapM_eq_ok_iff

/-- Texts are refused with the refusal of the first of them that is. -/
theorem mediaTypes_eq_error_iff :
    mediaTypes texts = .error e ↔
      ∃ before text after, texts = before ++ text :: after ∧
        (∀ earlier ∈ before, NamesOne earlier ∨ NamesOneBeside earlier) ∧
        ¬ (NamesOne text ∨ NamesOneBeside text) ∧ e = refusedText text := by
  have hbefore : ∀ before : List (Option String),
      (∃ ms, before.mapM MediaType.ofText = .ok ms) ↔
        ∀ earlier ∈ before, NamesOne earlier ∨ NamesOneBeside earlier := by
    intro before
    simp only [← MediaType.exists_ofText_iff]
    exact Checks.exists_mapM_eq_ok_iff
  refine Checks.mapError_eq_error_iff.trans ?_
  simp only [Checks.mapM_eq_error_iff]
  constructor
  · rintro ⟨rejection, ⟨before, text, after, made, rfl, hmade, htext⟩, rfl⟩
    obtain ⟨hrefused, rfl⟩ := MediaType.ofText_eq_error_iff.mp htext
    exact ⟨before, text, after, rfl, (hbefore before).mp ⟨made, hmade⟩, hrefused, rfl⟩
  · rintro ⟨before, text, after, rfl, hnamed, hrefused, rfl⟩
    obtain ⟨made, hmade⟩ := (hbefore before).mpr hnamed
    exact ⟨.notSingle text, ⟨before, text, after, made, rfl, hmade,
      MediaType.ofText_eq_error_iff.mpr ⟨hrefused, rfl⟩⟩, rfl⟩

/-- Reading texts and then others reads all of them. -/
theorem mediaTypes_append (types ignored : List (Option String)) :
    mediaTypes (types ++ ignored) = (do
      let read ← mediaTypes types
      let others ← mediaTypes ignored
      return read ++ others) := by
  unfold mediaTypes
  rw [List.mapM_append]
  cases types.mapM MediaType.ofText with
  | error rejection => rfl
  | ok read =>
      cases ignored.mapM MediaType.ofText with
      | error rejection => rfl
      | ok others => rfl

theorem ofMedia_eq_ok_iff {matcher : Matcher} :
    ofMedia types exact ignored = .ok matcher ↔
      types ≠ [] ∧ ∃ read others, types.map MediaType.ofText = read.map .ok ∧
        ignored.map MediaType.ofText = others.map .ok ∧
        matcher = .atom (.media { types := read, exact, ignored := others }) := by
  unfold ofMedia
  split
  · rename_i hnone
    exact ⟨nofun, fun h => absurd hnone h.1⟩
  rename_i hsome
  constructor
  · intro h
    obtain ⟨read, hread, h⟩ := Checks.bind_eq_ok_iff.mp h
    obtain ⟨others, hothers, h⟩ := Checks.bind_eq_ok_iff.mp h
    exact ⟨hsome, read, others, mediaTypes_eq_ok_iff.mp hread, mediaTypes_eq_ok_iff.mp hothers,
      (Except.ok.inj h).symm⟩
  · rintro ⟨-, read, others, hread, hothers, rfl⟩
    rw [mediaTypes_eq_ok_iff.mpr hread, mediaTypes_eq_ok_iff.mpr hothers]
    rfl

/-- The configured texts are read before the ignored ones. -/
theorem ofMedia_eq_error_iff_mediaTypes (hsome : types ≠ []) :
    ofMedia types exact ignored = .error e ↔ mediaTypes (types ++ ignored) = .error e := by
  unfold ofMedia
  rw [if_neg hsome, mediaTypes_append, Checks.bind_eq_error_iff, Checks.bind_eq_error_iff]
  -- what is made of the texts differs, but it is made only after all of them were read
  refine or_congr_right (exists_congr fun read => and_congr_right fun _ => ?_)
  rw [Checks.bind_eq_error_iff, Checks.bind_eq_error_iff]
  exact or_congr_right ⟨nofun, nofun⟩

theorem exists_ofMedia_iff :
    (∃ matcher, ofMedia types exact ignored = .ok matcher) ↔
      types ≠ [] ∧ ∀ text ∈ types ++ ignored, NamesOne text ∨ NamesOneBeside text := by
  constructor
  · rintro ⟨matcher, h⟩
    obtain ⟨hsome, read, others, hread, hothers, rfl⟩ := ofMedia_eq_ok_iff.mp h
    have hall : (types ++ ignored).map MediaType.ofText = (read ++ others).map .ok := by
      rw [List.map_append, List.map_append, hread, hothers]
    have hnamed := Checks.exists_mapM_eq_ok_iff.mp ⟨_, Checks.mapM_eq_ok_iff.mpr hall⟩
    exact ⟨hsome, fun text hmem => MediaType.exists_ofText_iff.mp (hnamed text hmem)⟩
  · rintro ⟨hsome, hnamed⟩
    cases hmade : ofMedia types exact ignored with
    | ok matcher => exact ⟨matcher, rfl⟩
    | error e =>
        obtain ⟨before, text, after, hall, -, hrefused, -⟩ :=
          mediaTypes_eq_error_iff.mp ((ofMedia_eq_error_iff_mediaTypes hsome).mp hmade)
        refine absurd (hnamed text ?_) hrefused
        rw [hall]
        exact List.mem_append_right before List.mem_cons_self

/-- A text is read as one media type if it names one, alone or beside something malformed, and
otherwise it is refused in words that quote it.  The matcher of media types can be made iff there is
a type and no text among the types and the ignored ones is refused.  Without a type this is what it
reports; otherwise it reports the refusal of the first text that is refused. -/
theorem ofMedia_refuses (types : List (Option String)) (exact : Switch)
    (ignored : List (Option String)) :
    (∀ text : Option String,
      ((∃ m, MediaType.ofText text = .ok m) ↔ NamesOne text ∨ NamesOneBeside text) ∧
      (∀ rejection, MediaType.ofText text = .error rejection ↔
        ¬ (NamesOne text ∨ NamesOneBeside text) ∧ rejection = .notSingle text) ∧
      ∀ m, MediaType.ofText text = .ok m → ∃ piece ∈ written text, ∃ position,
        Declares piece position m) ∧
    ((∃ matcher, ofMedia types exact ignored = .ok matcher) ↔
      types ≠ [] ∧ ∀ text ∈ types ++ ignored, NamesOne text ∨ NamesOneBeside text) ∧
    (∀ matcher, ofMedia types exact ignored = .ok matcher → ∃ read others,
      types.map MediaType.ofText = read.map .ok ∧
      ignored.map MediaType.ofText = others.map .ok ∧
      matcher = .atom (.media { types := read, exact, ignored := others })) ∧
    (types = [] → ofMedia types exact ignored =
      .error { argument := "media_types", fault := .noMediaTypes }) ∧
    ∀ e, types ≠ [] → (ofMedia types exact ignored = .error e ↔
      ∃ before text after, types ++ ignored = before ++ text :: after ∧
        (∀ earlier ∈ before, NamesOne earlier ∨ NamesOneBeside earlier) ∧
        ¬ (NamesOne text ∨ NamesOneBeside text) ∧ e = refusedText text) := by
  refine ⟨fun text => ⟨MediaType.exists_ofText_iff, fun _ => MediaType.ofText_eq_error_iff,
    fun _ => MediaType.exists_declares_of_ofText⟩, exists_ofMedia_iff,
    fun matcher h => (ofMedia_eq_ok_iff.mp h).2, ?_, fun e hsome => ?_⟩
  · rintro rfl
    rfl
  · exact (ofMedia_eq_error_iff_mediaTypes hsome).trans mediaTypes_eq_error_iff

/-- Blank pieces do not matter, and the first text that names nothing is reported. -/
theorem ofMedia_refuses_sample :
    (∃ matcher, ofMedia [some " text/html ,, "] .off [some "*/*"] = .ok matcher) ∧
      ofMedia [some "text/html"] .off [some "a/b, c/d", some "json"] =
        .error (refusedText (some "a/b, c/d")) := by
  constructor
  · exact (ofMedia_refuses _ _ _).2.1.mpr ⟨by simp, by decide +kernel⟩
  · exact ((ofMedia_refuses _ _ _).2.2.2.2 _ (by simp)).mpr
      ⟨[some "text/html"], some "a/b, c/d", [some "json"], rfl, by decide +kernel,
        by decide +kernel, rfl⟩

/-- A text that names something malformed beside a media type is read as if that were not there. -/
theorem ofMedia_malformed_beside :
    (∃ piece ∈ written (some "text/html, garbage"), ¬ WellFormed piece) ∧
      (written (some "text/html, garbage")).length ≠ 1 ∧
      MediaType.ofText (some "text/html, garbage") = .ok MediaType.textHtml ∧
      ofMedia [some "text/html, garbage"] .off [] =
        .ok (.atom (.media MediaMatcher.pagesOnly)) := by
  have hread : MediaType.ofText (some "text/html, garbage") = .ok MediaType.textHtml :=
    MediaType.ofText_eq_ok_iff.mpr (by decide +kernel)
  refine ⟨by decide +kernel, by decide +kernel, hread, ofMedia_eq_ok_iff.mpr ⟨by simp, ?_⟩⟩
  exact ⟨[MediaType.textHtml], [], congrArg (fun read => [read]) hread, rfl, rfl⟩

end Matcher

end SignOut
