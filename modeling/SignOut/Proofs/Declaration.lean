import SignOut.Media.Accept

/-!
# What an Accept header declares

The grammar of an Accept header, stated on the pieces between its commas and without the way in
which they are read.  A piece is well-formed if its essence has two sides that form a media type
and if every quality that it states is a number, the last of them between zero and one; it then
declares one media type.  Reading a header gives the declarations of its well-formed pieces, one
for each and in their order, and what one piece declares does not depend on any other piece.
-/

namespace SignOut

namespace Text

/-! ## Blanks around the fields of a text -/

variable {sep : Char} {p : Char → Bool}

/-- Characters dropped in front of a text are dropped in front of its first field. -/
theorem map_trimBy_fields_dropWhile (h : p sep = false) (cs : List Char) :
    (fields sep (cs.dropWhile p)).map (trimBy p) = (fields sep cs).map (trimBy p) := by
  induction cs with
  | nil => rfl
  | cons c rest ih =>
      cases hc : p c with
      | false => rw [List.dropWhile_cons_of_neg (by simp [hc])]
      | true =>
          have hsep : c ≠ sep := by
            rintro rfl
            rw [h] at hc
            cases hc
          have htrim : ∀ field, trimBy p (c :: field) = trimBy p field := by
            intro field
            unfold trimBy
            rw [List.dropWhile_cons_of_pos hc]
          rw [List.dropWhile_cons_of_pos hc, ih, fields, if_neg hsep]
          obtain ⟨first, more, hfields⟩ := List.exists_cons_of_ne_nil (fields_ne_nil sep rest)
          rw [hfields, List.map_cons, List.map_cons, htrim]

/-- Characters dropped behind a text are dropped behind its last field. -/
theorem map_trimEndBy_fields_trimEndBy (h : p sep = false) (cs : List Char) :
    (fields sep (trimEndBy p cs)).map (trimEndBy p) = (fields sep cs).map (trimEndBy p) := by
  induction cs with
  | nil => rfl
  | cons c rest ih =>
      obtain ⟨first, more, hfields⟩ := List.exists_cons_of_ne_nil (fields_ne_nil sep rest)
      by_cases hsep : c = sep
      · subst hsep
        rw [trimEndBy_cons, if_neg (by simp [h])]
        simp only [fields, if_true, List.map_cons, ih]
      · -- the character joins the first field, before and after trimming alike
        have hjoin : ∀ {a b : List Char}, trimEndBy p a = trimEndBy p b →
            trimEndBy p (c :: a) = trimEndBy p (c :: b) := by
          intro a b hab
          rw [trimEndBy_cons, trimEndBy_cons, hab]
        have hwhole : fields sep (c :: rest) = (c :: first) :: more := by
          rw [fields, if_neg hsep, hfields]
        rw [hwhole, trimEndBy_cons]
        split
        · rename_i hdropped
          rw [hdropped.1, hfields] at ih
          obtain ⟨hfirst, hmore⟩ := List.cons.inj ih
          have hend : trimEndBy p (c :: first) = [] := by
            rw [← hjoin hfirst, trimEndBy_cons, if_pos ⟨rfl, hdropped.2⟩]
          rw [List.map_cons, hend, ← hmore]
          rfl
        · obtain ⟨first', more', hfields'⟩ :=
            List.exists_cons_of_ne_nil (fields_ne_nil sep (trimEndBy p rest))
          rw [hfields', hfields] at ih
          obtain ⟨hfirst, hmore⟩ := List.cons.inj ih
          rw [fields, if_neg hsep, hfields', List.map_cons, List.map_cons, hjoin hfirst, hmore]

/-- Blanks around a text are blanks around its fields. -/
theorem map_strip_fields_strip (h : isBlank sep = false) (cs : List Char) :
    (fields sep (strip cs)).map strip = (fields sep cs).map strip := by
  have hstrip : strip = List.dropWhile isBlank ∘ trimEndBy isBlank := by
    funext field
    exact trimEndBy_dropWhile isBlank field
  calc (fields sep (strip cs)).map strip
      = ((fields sep (trimEndBy isBlank (cs.dropWhile isBlank))).map (trimEndBy isBlank)).map
          (List.dropWhile isBlank) := by
        rw [List.map_map, ← hstrip]
        rfl
    _ = (fields sep (cs.dropWhile isBlank)).map strip := by
        rw [map_trimEndBy_fields_trimEndBy h, List.map_map, ← hstrip]
    _ = (fields sep cs).map strip := map_trimBy_fields_dropWhile h cs

end Text

namespace Accept

open Numeric Text

/-! ## The grammar of a piece -/

/-- The essence of a piece: the text before its first semicolon without the blanks around it, where
a lone wildcard stands for the full one. -/
def essenceText (piece : List Char) : List Char :=
  expandWildcard (strip (piece.takeWhile (· ≠ ';')))

/-- The parameters of a piece: the parts behind its first semicolon that are not blank. -/
def parameterTexts (piece : List Char) : List (List Char) :=
  ((fields ';' piece).tail.map strip).filter (· ≠ [])

/-- The name of a parameter: the text before its first equals sign, in lower case.  It is empty for
a parameter that starts with the sign. -/
def parameterName (part : List Char) : List Char :=
  lower (strip (part.takeWhile (· ≠ '=')))

/-- The value of a parameter: the text behind its first equals sign without the quotes around it. -/
def parameterValue (part : List Char) : List Char :=
  trimBy (· == '"') (strip (part.dropWhile (· ≠ '=')).tail)

/-- The parameters of a piece with a name. -/
def parametersNamed (name : List Char) (piece : List Char) : List (List Char) :=
  (parameterTexts piece).filter (parameterName · = name)

/-- The last of some numbers, and one if there is none. -/
def lastNumber (numbers : List Binary64) : Binary64 :=
  numbers.getLast?.getD .one

/-- A piece is well-formed, with the two sides of its essence and the numbers that it states as its
quality: both sides hold something, only the full wildcard has a wildcard on its left, every stated
quality is a number, and the last one lies between zero and one. -/
structure Reads (piece left right : List Char) (numbers : List Binary64) : Prop where
  essence : essenceText piece = left ++ '/' :: right
  left_single : '/' ∉ left
  right_single : '/' ∉ right
  left_ne : strip left ≠ []
  right_ne : strip right ≠ []
  wildcard : strip left = ['*'] → strip right = ['*']
  stated : (parametersNamed qualityName piece).map (fun part =>
    Binary64.ofText? (parameterValue part)) = numbers.map some
  number : .nan ∉ numbers
  nonneg : (Binary64.finite false 0).le (lastNumber numbers) = true
  le_one : (lastNumber numbers).le .one = true

/-- A piece that declares a media type. -/
def WellFormed (piece : List Char) : Prop :=
  ∃ left right numbers, Reads piece left right numbers

/-- A media type is what a well-formed piece declares at a position: its sides in lower case, the
last quality that it states, and under every name but that of the quality the last value that it
gives. -/
structure Declares (piece : List Char) (position : Nat) (m : MediaType) : Prop where
  reads : ∃ left right numbers, Reads piece left right numbers ∧
    m.type = String.ofList (lower (strip left)) ∧
    m.subtype = String.ofList (lower (strip right)) ∧
    m.quality.value = lastNumber numbers
  order : m.order = position
  parameters : ∀ name, Keyed.get? (String.ofList name) m.parameters =
    if name = qualityName then none
    else ((parametersNamed name piece).getLast?).map fun part => String.ofList (parameterValue part)
  names : (m.parameters.map Prod.fst).Nodup

/-- Media types are what pieces declare from a position on: one for every well-formed piece, in the
order of the pieces, and none for any other. -/
inductive Declared : Nat → List (List Char) → List MediaType → Prop
  | nil (position : Nat) : Declared position [] []
  | wellFormed {position : Nat} {piece : List Char} {rest : List (List Char)} {m : MediaType}
      {ms : List MediaType} (hpiece : Declares piece position m)
      (hrest : Declared (position + 1) rest ms) : Declared position (piece :: rest) (m :: ms)
  | malformed {position : Nat} {piece : List Char} {rest : List (List Char)} {ms : List MediaType}
      (hpiece : ¬ WellFormed piece) (hrest : Declared (position + 1) rest ms) :
      Declared position (piece :: rest) ms

/-! ## Reading a piece -/

variable {piece : List Char} {position : Nat} {m : MediaType}

theorem wellFormed_of_declares (h : Declares piece position m) : WellFormed piece := by
  obtain ⟨left, right, numbers, hreads, -⟩ := h.reads
  exact ⟨left, right, numbers, hreads⟩

/-- The parts of a piece as they are read: its essence, and the parts behind it. -/
theorem map_strip_fields_piece (piece : List Char) :
    (fields ';' (strip piece)).map strip =
      strip (piece.takeWhile (· ≠ ';')) :: (fields ';' piece).tail.map strip := by
  rw [map_strip_fields_strip (by decide), fields_eq_takeWhile_cons, List.map_cons]
  rfl

theorem parameter_eq (part : List Char) :
    parameter part = (parameterName part, parameterValue part) := by
  unfold parameter parameterName parameterValue
  rw [← fst_cut, ← getD_snd_cut]

/-- The parameters of a piece as they are read, each with its name and its value. -/
def declaredParameters (piece : List Char) : List (List Char × List Char) :=
  (parameterTexts piece).map fun part => (parameterName part, parameterValue part)

theorem parameters_eq (piece : List Char) :
    parameters ((fields ';' piece).tail.map strip) = declaredParameters piece := by
  unfold parameters declaredParameters parameterTexts
  exact List.map_congr_left fun part _ => parameter_eq part

theorem statedQuality?_eq_some_iff {value : List Char} {x : Binary64} :
    statedQuality? value = some x ↔ Binary64.ofText? value = some x ∧ x ≠ .nan := by
  unfold statedQuality?
  split
  · rename_i hnan
    constructor
    · intro h
      cases h
    · rintro ⟨h, hne⟩
      exact absurd (Option.some.inj (h.symm.trans hnan)) hne
  · rename_i hnumber
    constructor
    · intro h
      exact ⟨h, fun hnan => hnumber (hnan ▸ h)⟩
    · exact fun h => h.1

/-- Stated qualities are read if all of them are numbers. -/
theorem mapM_statedQuality?_eq_some_iff {values : List (List Char)} {numbers : List Binary64} :
    values.mapM statedQuality? = some numbers ↔
      values.map Binary64.ofText? = numbers.map some ∧ .nan ∉ numbers := by
  induction values generalizing numbers with
  | nil =>
      constructor
      · intro h
        cases h
        exact ⟨rfl, List.not_mem_nil⟩
      · rintro ⟨h, -⟩
        rw [List.map_eq_nil_iff.mp h.symm]
        rfl
  | cons value rest ih =>
      rw [List.mapM_cons]
      constructor
      · intro h
        obtain ⟨x, hx, h⟩ := Option.bind_eq_some_iff.mp h
        obtain ⟨xs, hxs, h⟩ := Option.bind_eq_some_iff.mp h
        cases h
        obtain ⟨hx, hnumber⟩ := statedQuality?_eq_some_iff.mp hx
        obtain ⟨hxs, hnumbers⟩ := ih.mp hxs
        rw [List.map_cons, List.map_cons, hx, hxs]
        exact ⟨rfl, List.not_mem_cons_of_ne_of_not_mem (Ne.symm hnumber) hnumbers⟩
      · rintro ⟨h, hnumbers⟩
        cases numbers with
        | nil => cases h
        | cons x xs =>
            obtain ⟨hx, hxs⟩ := List.cons.inj h
            have hhead : statedQuality? value = some x :=
              statedQuality?_eq_some_iff.mpr ⟨hx, (List.ne_of_not_mem_cons hnumbers).symm⟩
            have htail : rest.mapM statedQuality? = some xs :=
              ih.mpr ⟨hxs, List.not_mem_of_not_mem_cons hnumbers⟩
            rw [hhead, htail]
            rfl

theorem map_snd_filter_declaredParameters (name piece : List Char) :
    ((declaredParameters piece).filter (·.1 = name)).map Prod.snd =
      (parametersNamed name piece).map parameterValue := by
  unfold declaredParameters parametersNamed
  rw [List.filter_map, List.map_map]
  rfl

/-- The quality that is read is the last number stated, provided that all stated ones are
numbers. -/
theorem quality?_eq_some_iff {x : Binary64} :
    quality? (declaredParameters piece) = some x ↔
      ∃ numbers, (parametersNamed qualityName piece).map (fun part =>
        Binary64.ofText? (parameterValue part)) = numbers.map some ∧ .nan ∉ numbers ∧
        x = lastNumber numbers := by
  have hvalues : ((declaredParameters piece).filter (·.1 = qualityName)).mapM
      (fun p => statedQuality? p.2) =
        ((parametersNamed qualityName piece).map parameterValue).mapM statedQuality? := by
    rw [← map_snd_filter_declaredParameters, List.mapM_map]
    rfl
  unfold quality?
  rw [hvalues]
  constructor
  · intro h
    obtain ⟨numbers, hnumbers, h⟩ := Option.bind_eq_some_iff.mp h
    obtain ⟨hstated, hnumber⟩ := mapM_statedQuality?_eq_some_iff.mp hnumbers
    rw [List.map_map] at hstated
    exact ⟨numbers, hstated, hnumber, (Option.some.inj h).symm⟩
  · rintro ⟨numbers, hstated, hnumber, rfl⟩
    rw [mapM_statedQuality?_eq_some_iff.mpr ⟨by rw [List.map_map]; exact hstated, hnumber⟩]
    rfl

/-- The further parameters that are read: under every name but that of the quality, the last
value. -/
theorem get?_furtherParameters (name piece : List Char) :
    Keyed.get? (String.ofList name) (furtherParameters (declaredParameters piece)) =
      if name = qualityName then none
      else ((parametersNamed name piece).getLast?).map fun part =>
        String.ofList (parameterValue part) := by
  have hentries : ((declaredParameters piece).filter (·.1 ≠ qualityName)).filter
      (fun p => String.ofList p.1 = String.ofList name) =
        if name = qualityName then [] else (declaredParameters piece).filter (·.1 = name) := by
    rw [List.filter_filter]
    split
    · rename_i hquality
      refine List.filter_eq_nil_iff.mpr fun p _ => ?_
      simp [String.ofList_inj, hquality]
    · rename_i hname
      refine List.filter_congr fun p _ => ?_
      by_cases hp : p.1 = name
      · simp [hp, hname]
      · simp [String.ofList_inj, hp]
  have hlast := congrArg List.getLast? (map_snd_filter_declaredParameters name piece)
  rw [List.getLast?_map, List.getLast?_map] at hlast
  unfold furtherParameters
  rw [Keyed.get?_ofEntries, List.filter_map]
  simp only [Function.comp_def]
  rw [hentries, List.getLast?_map, Option.map_map]
  split
  · rfl
  · have htexts := congrArg (Option.map String.ofList) hlast
    rw [Option.map_map, Option.map_map] at htexts
    exact htexts

theorem toOption_eq_some_iff {ε α : Type} {result : Except ε α} {a : α} :
    result.toOption = some a ↔ result = .ok a := by
  cases result <;> simp [Except.toOption]

/-- What is read from a piece: a media type with the two sides of the essence, the last number
stated and the further parameters, if the piece has two sides and states numbers only. -/
theorem declaration?_eq_some_iff :
    declaration? position piece = some m ↔
      ∃ left right numbers,
        (essenceText piece = left ++ '/' :: right ∧ '/' ∉ left ∧ '/' ∉ right) ∧
        ((parametersNamed qualityName piece).map (fun part =>
          Binary64.ofText? (parameterValue part)) = numbers.map some ∧ .nan ∉ numbers) ∧
        m.type = String.ofList (lower (strip left)) ∧
        m.subtype = String.ofList (lower (strip right)) ∧
        m.quality.value = lastNumber numbers ∧ m.order = position ∧
        m.parameters = furtherParameters (declaredParameters piece) := by
  have hname : ∀ side, MediaType.normalName (String.ofList side) =
      String.ofList (lower (strip side)) := by
    intro side
    rw [MediaType.normalName, String.toList_ofList]
  have hessenceText : expandWildcard (strip (piece.takeWhile (· ≠ ';'))) = essenceText piece := rfl
  unfold declaration?
  rw [map_strip_fields_piece]
  simp only [parameters_eq, hessenceText]
  constructor
  · intro h
    split at h
    · rename_i left right hsides
      obtain ⟨x, hx, h⟩ := Option.bind_eq_some_iff.mp h
      obtain ⟨numbers, hstated, hnumber, rfl⟩ := quality?_eq_some_iff.mp hx
      have hparts := MediaType.ofParts_eq_ok_iff.mp (toOption_eq_some_iff.mp h)
      rw [hname, hname] at hparts
      exact ⟨left, right, numbers, fields_eq_pair_iff.mp hsides, ⟨hstated, hnumber⟩, hparts⟩
    · cases h
  · rintro ⟨left, right, numbers, hsides, ⟨hstated, hnumber⟩, hparts⟩
    rw [← hname, ← hname] at hparts
    rw [fields_eq_pair_iff.mpr hsides, quality?_eq_some_iff.mpr ⟨numbers, hstated, hnumber, rfl⟩]
    refine Option.bind_eq_some_iff.mpr ⟨lastNumber numbers, rfl, ?_⟩
    rw [MediaType.ofParts_eq_ok_iff.mpr hparts]
    rfl

/-- What is read from a piece is what the piece declares. -/
theorem declares_of_declaration? (h : declaration? position piece = some m) :
    Declares piece position m := by
  obtain ⟨left, right, numbers, ⟨hessence, hleft, hright⟩, ⟨hstated, hnumber⟩, htype, hsubtype,
    hquality, horder, hparameters⟩ := declaration?_eq_some_iff.mp h
  refine ⟨⟨left, right, numbers, ?_, htype, hsubtype, hquality⟩, horder, ?_, ?_⟩
  · refine ⟨hessence, hleft, hright, ?_, ?_, ?_, hstated, hnumber, ?_, ?_⟩
    · intro hblank
      exact m.type_ne (by rw [htype, hblank]; rfl)
    · intro hblank
      exact m.subtype_ne (by rw [hsubtype, hblank]; rfl)
    · intro hwildcard
      have hfull : m.subtype = String.ofList ['*'] :=
        m.wildcard (by rw [htype, hwildcard]; rfl)
      exact lower_eq_wildcard_iff.mp (String.ofList_inj.mp (hsubtype.symm.trans hfull))
    · exact hquality ▸ m.quality.nonneg
    · exact hquality ▸ m.quality.le_one
  · intro name
    rw [hparameters, get?_furtherParameters]
  · rw [hparameters]
    exact Keyed.nodup_names_ofEntries _

/-- A well-formed piece is read. -/
theorem exists_declaration?_of_wellFormed (h : WellFormed piece) (position : Nat) :
    ∃ m, declaration? position piece = some m := by
  obtain ⟨left, right, numbers, hreads⟩ := h
  have hempty : ∀ {side}, strip side ≠ [] → String.ofList (lower (strip side)) ≠ "" :=
    fun hside hnothing =>
      hside (lower_eq_nil_iff.mp (String.ofList_eq_empty_iff.mp hnothing))
  have hwildcard : String.ofList (lower (strip left)) = String.ofList ['*'] →
      String.ofList (lower (strip right)) = String.ofList ['*'] := by
    intro hleft
    have hboth := hreads.wildcard (lower_eq_wildcard_iff.mp (String.ofList_inj.mp hleft))
    rw [hboth]
    rfl
  refine ⟨
    { type := String.ofList (lower (strip left))
      subtype := String.ofList (lower (strip right))
      quality := ⟨lastNumber numbers, hreads.nonneg, hreads.le_one⟩
      order := position
      parameters := furtherParameters (declaredParameters piece)
      type_ne := hempty hreads.left_ne
      subtype_ne := hempty hreads.right_ne
      wildcard := hwildcard }, ?_⟩
  exact declaration?_eq_some_iff.mpr ⟨left, right, numbers,
    ⟨hreads.essence, hreads.left_single, hreads.right_single⟩, ⟨hreads.stated, hreads.number⟩,
    rfl, rfl, rfl, rfl, rfl⟩

/-- A piece is read exactly if it is well-formed. -/
theorem declaration?_eq_none_iff : declaration? position piece = none ↔ ¬ WellFormed piece := by
  constructor
  · intro h hwell
    obtain ⟨m, hm⟩ := exists_declaration?_of_wellFormed hwell position
    rw [h] at hm
    cases hm
  · intro h
    cases hread : declaration? position piece with
    | none => rfl
    | some m => exact absurd (wellFormed_of_declares (declares_of_declaration? hread)) h

/-! ## Reading a header -/

/-- The pieces from a position on are read one by one. -/
theorem declared_entriesFrom (position : Nat) (pieces : List (List Char)) :
    Declared position pieces (entriesFrom position pieces) := by
  induction pieces generalizing position with
  | nil => exact .nil position
  | cons piece rest ih =>
      rw [entriesFrom]
      cases hread : declaration? position piece with
      | none => exact .malformed (declaration?_eq_none_iff.mp hread) (ih _)
      | some m => exact .wellFormed (declares_of_declaration? hread) (ih _)

theorem entriesFrom_append (position : Nat) (before after : List (List Char)) :
    entriesFrom position (before ++ after) =
      entriesFrom position before ++ entriesFrom (position + before.length) after := by
  induction before generalizing position with
  | nil => rfl
  | cons piece rest ih =>
      rw [List.cons_append, entriesFrom, entriesFrom, ih, List.append_assoc, List.length_cons,
        Nat.add_right_comm, Nat.add_assoc]

/-- A malformed piece leaves nothing behind but its position. -/
theorem entriesFrom_of_malformed (h : ¬ WellFormed piece) (position : Nat)
    (before after : List (List Char)) :
    entriesFrom position (before ++ piece :: after) =
      entriesFrom position before ++ entriesFrom (position + before.length + 1) after := by
  rw [entriesFrom_append, entriesFrom, declaration?_eq_none_iff.mpr h]
  rfl

/-- A header declares what its pieces declare, one media type for every well-formed piece, and what
stands in the place of a malformed piece does not matter as long as it is malformed. -/
theorem declared_parse :
    (∀ header : String, Declared 0 (fields ',' header.toList) (parse (some header))) ∧
    ∀ (header header' : String) (before after : List (List Char)) (piece piece' : List Char),
      fields ',' header.toList = before ++ piece :: after →
      fields ',' header'.toList = before ++ piece' :: after →
      ¬ WellFormed piece → ¬ WellFormed piece' → parse (some header) = parse (some header') := by
  refine ⟨fun header => declared_entriesFrom 0 _, ?_⟩
  intro header header' before after piece piece' hpieces hpieces' hbad hbad'
  unfold parse
  simp only [hpieces, hpieces']
  rw [entriesFrom_of_malformed hbad, entriesFrom_of_malformed hbad']

/-- Two slashes are as malformed as nothing at all. -/
theorem declared_parse_sample :
    ¬ WellFormed " a/b/c;q=1".toList ∧ ¬ WellFormed "".toList ∧
      parse (some "text/html, a/b/c;q=1,image/png;q=0.5") =
        parse (some "text/html,,image/png;q=0.5") ∧
      (parse (some "text/html,,image/png;q=0.5")).map MediaType.order = [0, 2] := by
  have hslashes : ¬ WellFormed " a/b/c;q=1".toList :=
    (@declaration?_eq_none_iff _ 1).mp (by decide +kernel)
  have hnothing : ¬ WellFormed "".toList :=
    (@declaration?_eq_none_iff _ 1).mp (by decide +kernel)
  have hpieces : fields ',' "text/html, a/b/c;q=1,image/png;q=0.5".toList =
      ["text/html".toList] ++ " a/b/c;q=1".toList :: ["image/png;q=0.5".toList] := by
    decide +kernel
  have hpieces' : fields ',' "text/html,,image/png;q=0.5".toList =
      ["text/html".toList] ++ "".toList :: ["image/png;q=0.5".toList] := by
    decide +kernel
  exact ⟨hslashes, hnothing, declared_parse.2 _ _ _ _ _ _ hpieces hpieces' hslashes hnothing,
    by decide +kernel⟩

end Accept

end SignOut
