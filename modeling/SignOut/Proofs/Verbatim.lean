import SignOut.Json.Reader
import SignOut.Proofs.Checks

/-!
# Verbatim strings

A text stands between quotes as it is when no character of it needs an escape.  Such a text is read
back as it is, and so is an object whose names and values are such texts.  Any other text between
quotes is lost: whatever is read takes up at least the characters that it consists of, an escape
takes up more than the character that it stands for, and the string ends at the first quote.  So no
reading of the text, be it as one string or as a string with further members behind it, comes to a
string that equals it.
-/

namespace SignOut.Json

/-- A character that stands for itself inside a string. -/
def isVerbatim (c : Char) : Bool :=
  c ≠ '"' && c ≠ '\\' && 0x20 ≤ c.toNat

/-- No character needs an escape. -/
def Verbatim (cs : List Char) : Prop :=
  ∀ c ∈ cs, isVerbatim c = true

instance (cs : List Char) : Decidable (Verbatim cs) :=
  decidable_of_iff (cs.all isVerbatim = true) List.all_eq_true

theorem isVerbatim_iff {c : Char} : isVerbatim c = true ↔ c ≠ '"' ∧ c ≠ '\\' ∧ 0x20 ≤ c.toNat := by
  simp [isVerbatim, and_assoc]

@[simp] theorem verbatim_nil : Verbatim [] := by
  simp [Verbatim]

@[simp] theorem verbatim_cons {c : Char} {cs : List Char} :
    Verbatim (c :: cs) ↔ isVerbatim c = true ∧ Verbatim cs := by
  simp [Verbatim]

@[simp] theorem verbatim_append {cs ds : List Char} :
    Verbatim (cs ++ ds) ↔ Verbatim cs ∧ Verbatim ds := by
  simp [Verbatim, or_imp, forall_and]

/-! ## Strings -/

/-- A character that needs no escape is read as itself. -/
theorem readUnits_cons {c : Char} (h : isVerbatim c = true) (cs : List Char) :
    readUnits (c :: cs) = (readUnits cs).map fun read => (c.toNat :: read.1, read.2) := by
  obtain ⟨hquote, hbackslash, hcontrol⟩ := isVerbatim_iff.mp h
  have hplain : ¬ (c.toNat < 0x20 ∨ c = '\\') := by
    rintro (hlow | hescape)
    · omega
    · exact hbackslash hescape
  -- the clauses overlap: the earlier ones want a quote or a backslash in front
  rw [readUnits.eq_def]
  split
  · contradiction
  · rename_i heq
    cases heq
    exact absurd rfl hquote
  · rename_i heq
    cases heq
    exact absurd rfl hbackslash
  · rename_i heq
    cases heq
    exact absurd rfl hbackslash
  · rename_i heq
    cases heq
    rw [if_neg hplain]
    cases readUnits cs <;> rfl

theorem readUnits_append {cs : List Char} (h : Verbatim cs) (tail : List Char) :
    readUnits (cs ++ '"' :: tail) = some (cs.map Char.toNat, tail) := by
  induction cs with
  | nil => rfl
  | cons c rest ih =>
      obtain ⟨hc, hrest⟩ := verbatim_cons.mp h
      rw [List.cons_append, readUnits_cons hc, ih hrest]
      rfl

/-- No character is half of a pair. -/
theorem not_isHalf_toNat (c : Char) : (isHighHalf c.toNat || isLowHalf c.toNat) = false := by
  have hvalid : c.toNat < 0xD800 ∨ 0xDFFF < c.toNat ∧ c.toNat < 0x110000 := c.valid
  simp only [isHighHalf, isLowHalf, Bool.or_eq_false_iff, Bool.and_eq_false_iff,
    decide_eq_false_iff_not]
  omega

theorem charsOfUnits_map_toNat (cs : List Char) : charsOfUnits (cs.map Char.toNat) = some cs := by
  induction cs with
  | nil => rfl
  | cons c rest ih =>
      obtain ⟨hhigh, hlow⟩ := Bool.or_eq_false_iff.mp (not_isHalf_toNat c)
      cases rest with
      | nil => simp [charsOfUnits, hhigh, hlow]
      | cons d rest =>
          rw [List.map_cons, List.map_cons, charsOfUnits, ← List.map_cons, ih]
          simp [hhigh, hlow]

/-- A text that needs no escape is read back as it is. -/
theorem readString_append {s : String} (h : Verbatim s.toList) (tail : List Char) :
    readString (s.toList ++ '"' :: tail) = some (.string s, tail) := by
  simp [readString, readUnits_append h, charsOfUnits_map_toNat]

theorem length_charsOfUnits {units : List Nat} {chars : List Char}
    (h : charsOfUnits units = some chars) : chars.length ≤ units.length := by
  fun_induction charsOfUnits units generalizing chars with
  | case1 =>
      cases h
      exact Nat.le_refl _
  | case2 n hhalf => cases h
  | case3 n hwhole =>
      cases h
      exact Nat.le_refl _
  | case4 n m rest hpair ih =>
      obtain ⟨others, hothers, rfl⟩ := Option.map_eq_some_iff.mp h
      have hle := ih hothers
      simp only [List.length_cons]
      omega
  | case5 n m rest hpair hhalf => cases h
  | case6 n m rest hpair hwhole ih =>
      obtain ⟨others, hothers, rfl⟩ := Option.map_eq_some_iff.mp h
      have hle := ih hothers
      simp only [List.length_cons] at hle ⊢
      omega

/-- The content of a string either stands for itself, or is shorter than the text it is read from
by more than the closing quote. -/
theorem readUnits_cases {cs tail : List Char} {units : List Nat}
    (h : readUnits cs = some (units, tail)) :
    (∃ content, Verbatim content ∧ cs = content ++ '"' :: tail ∧
        units = content.map Char.toNat) ∨
      units.length + tail.length + 2 ≤ cs.length := by
  fun_induction readUnits cs generalizing units tail with
  | case1 => cases h
  | case2 rest =>
      cases h
      exact .inl ⟨[], verbatim_nil, rfl, rfl⟩
  | case3 a b c d rest ih =>
      -- six characters for one unit: there is room to spare whatever follows
      obtain ⟨unit, -, h⟩ := Option.bind_eq_some_iff.mp h
      obtain ⟨⟨others, after⟩, hread, h⟩ := Option.bind_eq_some_iff.mp h
      cases h
      right
      rcases ih hread with ⟨content, -, rfl, rfl⟩ | hshort
      · simp only [List.length_cons, List.length_append, List.length_map]
        omega
      · simp only [List.length_cons]
        omega
  | case4 letter rest hletter ih =>
      obtain ⟨unit, -, h⟩ := Option.bind_eq_some_iff.mp h
      obtain ⟨⟨others, after⟩, hread, h⟩ := Option.bind_eq_some_iff.mp h
      cases h
      right
      rcases ih hread with ⟨content, -, rfl, rfl⟩ | hshort
      · simp only [List.length_cons, List.length_append, List.length_map]
        omega
      · simp only [List.length_cons]
        omega
  | case5 c rest _ _ _ hcontrol => cases h
  | case6 c rest hquote _ _ hplain ih =>
      obtain ⟨⟨others, after⟩, hread, h⟩ := Option.bind_eq_some_iff.mp h
      cases h
      rcases ih hread with ⟨content, hcontent, rfl, rfl⟩ | hshort
      · left
        have hc : isVerbatim c = true := by
          refine isVerbatim_iff.mpr ⟨hquote, fun hescape => hplain (.inr hescape), ?_⟩
          exact Nat.le_of_not_lt fun hlow => hplain (.inl hlow)
        exact ⟨c :: content, verbatim_cons.mpr ⟨hc, hcontent⟩, rfl, rfl⟩
      · right
        simp only [List.length_cons]
        omega

/-- A string that is read either stands in the text as it is, or is shorter than the text by more
than the closing quote. -/
theorem readString_cases {cs tail : List Char} {s : String}
    (h : readString cs = some (.string s, tail)) :
    (Verbatim s.toList ∧ cs = s.toList ++ '"' :: tail) ∨
      s.toList.length + tail.length + 2 ≤ cs.length := by
  obtain ⟨⟨units, after⟩, hunits, h⟩ := Option.bind_eq_some_iff.mp h
  dsimp only at h
  split at h
  · rename_i chars hchars
    cases h
    rcases readUnits_cases hunits with ⟨content, hcontent, rfl, rfl⟩ | hshort
    · rw [charsOfUnits_map_toNat] at hchars
      cases hchars
      left
      simpa using hcontent
    · right
      have hle := length_charsOfUnits hchars
      rw [String.toList_ofList]
      omega
  · cases h

theorem length_tail_readString {cs tail : List Char} {value : Json}
    (h : readString cs = some (value, tail)) : tail.length < cs.length := by
  obtain ⟨⟨units, after⟩, hunits, h⟩ := Option.bind_eq_some_iff.mp h
  have hafter : after = tail := by
    dsimp only at h
    split at h
    · cases h
      rfl
    · cases h
      rfl
  subst hafter
  rcases readUnits_cases hunits with ⟨content, -, rfl, -⟩ | hshort
  · simp only [List.length_append, List.length_cons]
    omega
  · omega

/-! ## Values of other kinds -/

theorem length_snd_takeWhole (cs : List Char) : (takeWhole cs).2.length ≤ cs.length := by
  unfold takeWhole
  split
  · exact Nat.le_succ _
  · exact (List.dropWhile_suffix _).length_le

theorem length_snd_takeFraction (cs : List Char) : (takeFraction cs).2.length ≤ cs.length := by
  unfold takeFraction
  split
  · split
    · exact Nat.le_refl _
    · exact Nat.le_succ_of_le (List.dropWhile_suffix _).length_le
  · exact Nat.le_refl _

theorem length_snd_takeExponent (cs : List Char) : (takeExponent cs).2.length ≤ cs.length := by
  cases cs with
  | nil => exact Nat.le_refl _
  | cons mark rest =>
      rw [takeExponent.eq_def]
      dsimp only
      split
      · split
        · exact Nat.le_refl _
        · refine Nat.le_succ_of_le (Nat.le_trans (List.dropWhile_suffix _).length_le ?_)
          split
          · exact Nat.le_succ _
          · exact Nat.le_succ _
          · exact Nat.le_refl _
      · exact Nat.le_refl _

/-- A number is no string, and what follows it is no longer than the text. -/
theorem of_readMagnitude {negative : Bool} {cs tail : List Char} {value : Json}
    (h : readMagnitude negative cs = some (value, tail)) :
    tail.length ≤ cs.length ∧ ∀ s, value ≠ .string s := by
  have hwhole := length_snd_takeWhole cs
  have hfraction := length_snd_takeFraction (takeWhole cs).2
  have hexponent := length_snd_takeExponent (takeFraction (takeWhole cs).2).2
  unfold readMagnitude at h
  dsimp only at h
  split at h
  · cases h
  split at h
  · split at h
    · cases h
    · cases h
      exact ⟨by omega, fun s hs => by cases hs⟩
  · obtain ⟨x, -, h⟩ := Option.bind_eq_some_iff.mp h
    cases h
    exact ⟨by omega, fun s hs => by cases hs⟩

/-- A value without parts that does not start with a quote is no string, and what follows it is no
longer than the text. -/
theorem of_readScalar {cs tail : List Char} {value : Json}
    (h : readScalar cs = some (value, tail)) :
    tail.length ≤ cs.length ∧ ∀ s, value ≠ .string s := by
  unfold readScalar at h
  dsimp only at h
  split at h
  · rename_i result hword
    cases h
    obtain ⟨⟨word, named⟩, hmem, hdrop⟩ := List.exists_of_findSome?_eq_some hword
    obtain ⟨rest, hrest, heq⟩ := Option.map_eq_some_iff.mp hdrop
    cases heq
    refine ⟨?_, ?_⟩
    · unfold dropWord? at hrest
      split at hrest
      · cases hrest
        simp
      · cases hrest
    · rintro s rfl
      simp at hmem
  split at h
  · obtain ⟨hlength, hkind⟩ := of_readMagnitude h
    exact ⟨Nat.le_succ_of_le hlength, hkind⟩
  · exact of_readMagnitude h

/-! ## Values and members -/

theorem orMalformed_eq_ok_iff {α : Type} {read : Option α} {result : α} :
    orMalformed read = .ok result ↔ read = some result := by
  cases read with
  | none =>
      constructor
      · intro h
        cases h
      · intro h
        cases h
  | some read =>
      constructor
      · intro h
        cases h
        rfl
      · intro h
        cases h
        rfl

theorem length_skipGap (cs : List Char) : (skipGap cs).length ≤ cs.length :=
  (List.dropWhile_suffix _).length_le

/-- Members are read one by one: a name between quotes, a value, and a comma with further members or
the closing brace. -/
theorem of_readMembers {fuel room : Nat} {cs tail : List Char} {members : List (String × Json)}
    (h : readMembers (fuel + 1) room cs = .ok (members, tail)) :
    ∃ quoted name afterName afterColon value rest, cs = '"' :: quoted ∧
      readString quoted = some (name, afterName) ∧ skipGap afterName = ':' :: afterColon ∧
      readValue fuel room (skipGap afterColon) = .ok (value, rest) ∧
      ((∃ more others, skipGap rest = ',' :: more ∧
          readMembers fuel room (skipGap more) = .ok (others, tail) ∧
          members = (memberName name, value) :: others) ∨
        skipGap rest = '}' :: tail ∧ members = [(memberName name, value)]) := by
  rw [readMembers.eq_def] at h
  dsimp only at h
  split at h
  · rename_i quoted
    obtain ⟨⟨name, afterName⟩, hname, h⟩ := Checks.bind_eq_ok_iff.mp h
    dsimp only at h
    split at h
    · rename_i afterColon hcolon
      obtain ⟨⟨value, rest⟩, hvalue, h⟩ := Checks.bind_eq_ok_iff.mp h
      dsimp only at h
      refine ⟨quoted, name, afterName, afterColon, value, rest, rfl, orMalformed_eq_ok_iff.mp hname,
        hcolon, hvalue, ?_⟩
      split at h
      · rename_i more hcomma
        obtain ⟨⟨others, after⟩, hothers, h⟩ := Checks.bind_eq_ok_iff.mp h
        cases h
        exact .inl ⟨more, others, hcomma, hothers, rfl⟩
      · rename_i after hbrace
        cases h
        exact .inr ⟨hbrace, rfl⟩
      · cases h
    · cases h
  · cases h

/-- Strings are read behind an opening quote. -/
theorem of_readValue_string {fuel room : Nat} {cs tail : List Char} {s : String}
    (h : readValue fuel room cs = .ok (.string s, tail)) :
    ∃ quoted, cs = '"' :: quoted ∧ readString quoted = some (.string s, tail) := by
  cases fuel with
  | zero =>
      rw [readValue] at h
      cases h
  | succ fuel =>
      rw [readValue.eq_def] at h
      dsimp only at h
      split at h
      · exact ⟨_, rfl, orMalformed_eq_ok_iff.mp h⟩
      · cases h
      · split at h
        · cases h
        · obtain ⟨⟨items, after⟩, -, h⟩ := Checks.bind_eq_ok_iff.mp h
          cases h
      · cases h
      · split at h
        · cases h
        · obtain ⟨⟨members, after⟩, -, h⟩ := Checks.bind_eq_ok_iff.mp h
          cases h
      · exact absurd rfl ((of_readScalar (orMalformed_eq_ok_iff.mp h)).2 s)

/-- What is left over is no longer than the text.  The induction is on the fuel, for all three
readers at once, since each of them calls the others with less of it. -/
theorem length_tail_read (fuel : Nat) :
    (∀ room cs value tail, readValue fuel room cs = .ok (value, tail) →
        tail.length ≤ cs.length) ∧
      (∀ room cs items tail, readItems fuel room cs = .ok (items, tail) →
        tail.length ≤ cs.length) ∧
      ∀ room cs members tail, readMembers fuel room cs = .ok (members, tail) →
        tail.length ≤ cs.length := by
  induction fuel with
  | zero =>
      refine ⟨?_, ?_, ?_⟩
      · intro room cs value tail h
        rw [readValue] at h
        cases h
      · intro room cs items tail h
        rw [readItems] at h
        cases h
      · intro room cs members tail h
        rw [readMembers] at h
        cases h
  | succ fuel ih =>
      obtain ⟨ihValue, ihItems, ihMembers⟩ := ih
      refine ⟨?_, ?_, ?_⟩
      · intro room cs value tail h
        rw [readValue.eq_def] at h
        dsimp only at h
        split at h
        · have htail := length_tail_readString (orMalformed_eq_ok_iff.mp h)
          exact Nat.le_succ_of_le (Nat.le_of_lt htail)
        · cases h
        · rename_i rest room
          have hgap := length_skipGap rest
          split at h
          · rename_i after hclose
            cases h
            rw [hclose] at hgap
            simp only [List.length_cons] at hgap ⊢
            omega
          · obtain ⟨⟨items, after⟩, hitems, h⟩ := Checks.bind_eq_ok_iff.mp h
            cases h
            exact Nat.le_succ_of_le (Nat.le_trans (ihItems _ _ _ _ hitems) hgap)
        · cases h
        · rename_i rest room
          have hgap := length_skipGap rest
          split at h
          · rename_i after hclose
            cases h
            rw [hclose] at hgap
            simp only [List.length_cons] at hgap ⊢
            omega
          · obtain ⟨⟨members, after⟩, hmembers, h⟩ := Checks.bind_eq_ok_iff.mp h
            cases h
            exact Nat.le_succ_of_le (Nat.le_trans (ihMembers _ _ _ _ hmembers) hgap)
        · exact (of_readScalar (orMalformed_eq_ok_iff.mp h)).1
      · intro room cs items tail h
        rw [readItems] at h
        obtain ⟨⟨item, rest⟩, hitem, h⟩ := Checks.bind_eq_ok_iff.mp h
        have hrest := ihValue _ _ _ _ hitem
        have hgap := length_skipGap rest
        dsimp only at h
        split at h
        · rename_i more hcomma
          obtain ⟨⟨others, after⟩, hothers, h⟩ := Checks.bind_eq_ok_iff.mp h
          cases h
          have hmore := length_skipGap more
          have hafter := ihItems _ _ _ _ hothers
          rw [hcomma, List.length_cons] at hgap
          dsimp only
          omega
        · rename_i after hclose
          cases h
          rw [hclose, List.length_cons] at hgap
          omega
        · cases h
      · intro room cs members tail h
        obtain ⟨quoted, name, afterName, afterColon, value, rest, rfl, hname, hcolon, hvalue, h⟩ :=
          of_readMembers h
        have hname := length_tail_readString hname
        have hcolonGap := length_skipGap afterName
        have hvalueGap := length_skipGap afterColon
        have hrest := ihValue _ _ _ _ hvalue
        have hgap := length_skipGap rest
        rw [hcolon, List.length_cons] at hcolonGap
        rw [List.length_cons]
        rcases h with ⟨more, others, hcomma, hothers, -⟩ | ⟨hclose, -⟩
        · have hmore := length_skipGap more
          have hafter := ihMembers _ _ _ _ hothers
          rw [hcomma, List.length_cons] at hgap
          omega
        · rw [hclose, List.length_cons] at hgap
          omega

/-- A string that is a member is shorter than the text of the members. -/
theorem length_lt_of_mem_readMembers {fuel room : Nat} {cs tail : List Char}
    {members : List (String × Json)} {name s : String}
    (h : readMembers fuel room cs = .ok (members, tail)) (hmem : (name, .string s) ∈ members) :
    s.toList.length < cs.length := by
  induction fuel generalizing cs members with
  | zero =>
      rw [readMembers] at h
      cases h
  | succ fuel ih =>
      obtain ⟨quoted, first, afterName, afterColon, value, rest, rfl, hname, hcolon, hvalue, h⟩ :=
        of_readMembers h
      have hname := length_tail_readString hname
      have hcolonGap := length_skipGap afterName
      have hvalueGap := length_skipGap afterColon
      rw [hcolon, List.length_cons] at hcolonGap
      rw [List.length_cons]
      have hfirst : value = .string s → s.toList.length < quoted.length + 1 := by
        rintro rfl
        obtain ⟨inner, hquote, hread⟩ := of_readValue_string hvalue
        rw [hquote, List.length_cons] at hvalueGap
        rcases readString_cases hread with ⟨-, rfl⟩ | hshort
        · rw [List.length_append] at hvalueGap
          omega
        · omega
      rcases h with ⟨more, others, hcomma, hothers, rfl⟩ | ⟨-, rfl⟩
      · rcases List.mem_cons.mp hmem with heq | hlater
        · cases heq
          exact hfirst rfl
        · have hlater := ih hothers hlater
          have hmore := length_skipGap more
          have hgap := length_skipGap rest
          have hrest := (length_tail_read fuel).1 _ _ _ _ hvalue
          rw [hcomma, List.length_cons] at hgap
          omega
      · cases List.mem_singleton.mp hmem
        exact hfirst rfl

/-! ## Members in plain form -/

/-- The name of a member up to the quote that opens its value. -/
def opening (name : String) : List Char :=
  '"' :: name.toList ++ ['"', ':', '"']

/-- Members whose names and values are strings, written without gaps or escapes, each with a comma
behind it. -/
def written (members : List (String × String)) : List Char :=
  members.flatMap fun member => opening member.1 ++ member.2.toList ++ ['"', ',']

theorem written_nil : written [] = [] := rfl

theorem written_cons (member : String × String) (rest : List (String × String)) :
    written (member :: rest) =
      opening member.1 ++ (member.2.toList ++ '"' :: ',' :: written rest) := by
  simp [written]

/-- The values of members that are strings. -/
def strings (members : List (String × String)) : List (String × Json) :=
  members.map fun member => (member.1, .string member.2)

/-- The name and the value of a member need no escapes. -/
def VerbatimMember (member : String × String) : Prop :=
  Verbatim member.1.toList ∧ Verbatim member.2.toList

theorem skipGap_quote (cs : List Char) : skipGap ('"' :: cs) = '"' :: cs := rfl

theorem readValue_append {s : String} (h : Verbatim s.toList) (fuel room : Nat)
    (tail : List Char) :
    readValue (fuel + 1) room ('"' :: (s.toList ++ '"' :: tail)) = .ok (.string s, tail) := by
  rw [readValue, readString_append h]
  rfl

/-- What is read of the first member, when its name needs no escape. -/
theorem readMembers_opening {name : String} (h : Verbatim name.toList) (fuel room : Nat)
    (cs : List Char) :
    readMembers (fuel + 1) room (opening name ++ cs) =
      (do
        let (value, rest) ← readValue fuel room ('"' :: cs)
        match skipGap rest with
        | ',' :: more =>
            let (members, tail) ← readMembers fuel room (skipGap more)
            return ((name, value) :: members, tail)
        | '}' :: tail => return ([(name, value)], tail)
        | _ => .error .malformed) := by
  have hopening : opening name ++ cs = '"' :: (name.toList ++ '"' :: ':' :: '"' :: cs) := by
    simp [opening]
  rw [hopening, readMembers, readString_append h]
  rfl

/-- Members in plain form are read as they are, whatever members follow. -/
theorem readMembers_written {members : List (String × String)}
    (h : ∀ member ∈ members, VerbatimMember member) (fuel room : Nat) (cs : List Char) :
    readMembers (members.length + (fuel + 1)) room (written members ++ '"' :: cs) =
      (do
        let (others, tail) ← readMembers (fuel + 1) room ('"' :: cs)
        return (strings members ++ others, tail)) := by
  induction members with
  | nil =>
      rw [List.length_nil, Nat.zero_add]
      show readMembers (fuel + 1) room ('"' :: cs) = _
      cases readMembers (fuel + 1) room ('"' :: cs) <;> rfl
  | cons member rest ih =>
      obtain ⟨hmember, hrest⟩ := List.forall_mem_cons.mp h
      have hfuel : (member :: rest).length + (fuel + 1) = rest.length + (fuel + 1) + 1 := by
        rw [List.length_cons]
        omega
      have hsplit : written (member :: rest) ++ '"' :: cs =
          opening member.1 ++ (member.2.toList ++ '"' :: ',' :: (written rest ++ '"' :: cs)) := by
        simp [written_cons]
      -- no gap is skipped in front of the next member, since it starts with a quote
      have hnext : ∃ more, written rest ++ '"' :: cs = '"' :: more := by
        cases rest with
        | nil => exact ⟨cs, rfl⟩
        | cons next rest => exact ⟨_, rfl⟩
      obtain ⟨more, hmore⟩ := hnext
      rw [hfuel, hsplit, readMembers_opening hmember.1, ← Nat.add_assoc, readValue_append hmember.2,
        Nat.add_assoc]
      show (do
        let (others, tail) ← readMembers (rest.length + (fuel + 1)) room
          (skipGap (written rest ++ '"' :: cs))
        return ((member.1, Json.string member.2) :: others, tail)) = _
      rw [hmore, skipGap_quote, ← hmore, ih hrest]
      cases readMembers (fuel + 1) room ('"' :: cs) <;> rfl

/-- A member in plain form is the last one when its value needs no escape. -/
theorem readMembers_last {name s : String} (hname : Verbatim name.toList) (hs : Verbatim s.toList)
    (fuel room : Nat) :
    readMembers (fuel + 2) room (opening name ++ (s.toList ++ ['"', '}'])) =
      .ok ([(name, .string s)], []) := by
  rw [readMembers_opening hname, readValue_append hs]
  rfl

/-- A value that needs an escape and is written without one is the value of no member that is read:
the string that starts in its place is shorter, and the members that come behind that string are
shorter still. -/
theorem verbatim_of_mem_readMembers {fuel room : Nat} {name other s : String}
    {members : List (String × Json)} {tail : List Char} (hname : Verbatim name.toList)
    (h : readMembers fuel room (opening name ++ (s.toList ++ ['"', '}'])) =
      .ok (members, tail))
    (hmem : (other, .string s) ∈ members) : Verbatim s.toList := by
  cases fuel with
  | zero =>
      rw [readMembers] at h
      cases h
  | succ fuel =>
      rw [readMembers_opening hname] at h
      obtain ⟨⟨value, rest⟩, hvalue, h⟩ := Checks.bind_eq_ok_iff.mp h
      dsimp only at h
      -- of the text and the two characters behind it, the first string takes at least its quote
      have hrest : rest.length ≤ s.toList.length + 1 := by
        cases fuel with
        | zero =>
            rw [readValue] at hvalue
            cases hvalue
        | succ fuel =>
            rw [readValue] at hvalue
            have hlt := length_tail_readString (orMalformed_eq_ok_iff.mp hvalue)
            rw [List.length_append, List.length_cons, List.length_singleton] at hlt
            omega
      have hgap := length_skipGap rest
      have hfirst : value = .string s → skipGap rest ≠ [] → Verbatim s.toList := by
        rintro rfl hbehind
        obtain ⟨inner, hquote, hread⟩ := of_readValue_string hvalue
        cases hquote
        rcases readString_cases hread with ⟨hplain, -⟩ | hshort
        · exact hplain
        · -- a string as long as the text with an escape in it would leave no brace
          rw [List.length_append, List.length_cons, List.length_singleton] at hshort
          exact absurd (List.length_eq_zero_iff.mp (by omega)) hbehind
      split at h
      · rename_i more hcomma
        obtain ⟨⟨others, after⟩, hothers, h⟩ := Checks.bind_eq_ok_iff.mp h
        cases h
        rcases List.mem_cons.mp hmem with heq | hlater
        · cases heq
          exact hfirst rfl (by simp [hcomma])
        · -- a later member lies behind a comma, within fewer characters than the text has
          have hlater := length_lt_of_mem_readMembers hothers hlater
          have hmore := length_skipGap more
          rw [hcomma, List.length_cons] at hgap
          omega
      · rename_i after hclose
        cases h
        cases List.mem_singleton.mp hmem
        exact hfirst rfl (by simp [hclose])
      · cases h

/-! ## Objects in plain form -/

/-- An object in plain form whose last value is written as it is, whether it needs an escape or
not. -/
def objectText (leading : List (String × String)) (name s : String) : List Char :=
  '{' :: (written leading ++ (opening name ++ (s.toList ++ ['"', '}'])))

theorem length_le_length_written (members : List (String × String)) :
    members.length ≤ (written members).length := by
  induction members with
  | nil => exact Nat.le_refl _
  | cons member rest ih =>
      simp only [written_cons, List.length_append, List.length_cons]
      omega

/-- What an object in plain form is read as depends on its last member alone. -/
theorem exists_parse_objectText {leading : List (String × String)}
    (h : ∀ member ∈ leading, VerbatimMember member) (name s : String) :
    ∃ fuel room, parse (objectText leading name s) =
      (do
        let (others, tail) ←
          readMembers (fuel + 2) room (opening name ++ (s.toList ++ ['"', '}']))
        if skipGap tail = [] then
          return .object (Keyed.ofEntries (strings leading ++ others))
        else .error .malformed) := by
  obtain ⟨cs, hlast⟩ : ∃ cs, opening name ++ (s.toList ++ ['"', '}']) = '"' :: cs := ⟨_, rfl⟩
  obtain ⟨more, hmore⟩ : ∃ more, written leading ++ '"' :: cs = '"' :: more := by
    cases leading with
    | nil => exact ⟨cs, rfl⟩
    | cons member rest => exact ⟨_, rfl⟩
  have hlength := length_le_length_written leading
  have hcount : (written leading).length + 1 ≤ ('"' :: more).length := by
    rw [← hmore, List.length_append, List.length_cons]
    omega
  -- each member uses up one step of the reader, and the text is longer than their number
  obtain ⟨fuel, hfuel⟩ : ∃ fuel,
      2 * ('{' :: '"' :: more).length + 1 = leading.length + (fuel + 1 + 1) := by
    refine ⟨2 * ('{' :: '"' :: more).length - leading.length - 1, ?_⟩
    rw [List.length_cons]
    omega
  refine ⟨fuel, 983, ?_⟩
  have htext : objectText leading name s = '{' :: '"' :: more := by
    rw [objectText, hlast, hmore]
  have hvalue : ∀ fuel, readValue (fuel + 1) maxDepth ('{' :: '"' :: more) =
      (do
        let (members, tail) ← readMembers fuel 983 ('"' :: more)
        return (.object (Keyed.ofEntries members), tail)) := by
    intro fuel
    rw [readValue.eq_def]
    rfl
  have hparse : parse ('{' :: '"' :: more) =
      (do
        let (value, tail) ←
          readValue (2 * ('{' :: '"' :: more).length + 1 + 1) maxDepth ('{' :: '"' :: more)
        if skipGap tail = [] then return value else .error .malformed) := rfl
  rw [htext, hparse, hvalue, hfuel, ← hmore, readMembers_written h, ← hlast]
  cases readMembers (fuel + 2) 983 (opening name ++ (s.toList ++ ['"', '}'])) <;> rfl

/-- An object in plain form is read as it is when all its names and values are verbatim. -/
theorem parse_objectText {leading : List (String × String)}
    (h : ∀ member ∈ leading, VerbatimMember member) {name s : String}
    (hlast : VerbatimMember (name, s)) :
    parse (objectText leading name s) =
      .ok (.object (Keyed.ofEntries (strings (leading ++ [(name, s)])))) := by
  obtain ⟨fuel, room, hparse⟩ := exists_parse_objectText h name s
  have hstrings : strings (leading ++ [(name, s)]) = strings leading ++ [(name, .string s)] := by
    simp [strings]
  rw [hparse, readMembers_last hlast.1 hlast.2, hstrings]
  rfl

/-- The last value of an object in plain form is read under its name only if it is verbatim. -/
theorem verbatim_of_parse_objectText {leading : List (String × String)}
    (h : ∀ member ∈ leading, VerbatimMember member) {name s : String}
    (hname : Verbatim name.toList) (hnew : name ∉ leading.map Prod.fst) {members : Keyed Json}
    (hparse : parse (objectText leading name s) = .ok (.object members))
    (hread : Keyed.get? name members = some (.string s)) : Verbatim s.toList := by
  obtain ⟨fuel, room, hleading⟩ := exists_parse_objectText h name s
  rw [hleading] at hparse
  obtain ⟨⟨others, tail⟩, hothers, hparse⟩ := Checks.bind_eq_ok_iff.mp hparse
  dsimp only at hparse
  split at hparse
  · cases hparse
    rw [Keyed.get?_ofEntries] at hread
    obtain ⟨⟨key, value⟩, hlast, hvalue⟩ := Option.map_eq_some_iff.mp hread
    obtain rfl : value = .string s := hvalue
    obtain ⟨hmem, hkey⟩ := List.mem_filter.mp (List.mem_of_getLast? hlast)
    obtain rfl : key = name := of_decide_eq_true hkey
    rcases List.mem_append.mp hmem with hahead | hbehind
    · obtain ⟨member, hmember, heq⟩ := List.mem_map.mp hahead
      cases heq
      exact absurd (List.mem_map_of_mem hmember) hnew
    · exact verbatim_of_mem_readMembers hname hothers hbehind
  · cases hparse

/-- A quote in the last value of an object in plain form ends the string: where neither a comma nor
the closing brace follows it, the text is no value. -/
theorem parse_objectText_of_quote {leading : List (String × String)}
    (h : ∀ member ∈ leading, VerbatimMember member) {name start rest : String}
    (hname : Verbatim name.toList) (hstart : Verbatim start.toList) {c : Char} {cs : List Char}
    (hrest : skipGap (rest.toList ++ ['"', '}']) = c :: cs) (hcomma : c ≠ ',') (hbrace : c ≠ '}') :
    parse (objectText leading name (start ++ "\"" ++ rest)) = .error .malformed := by
  obtain ⟨fuel, room, hparse⟩ := exists_parse_objectText h name (start ++ "\"" ++ rest)
  have hvalue : (start ++ "\"" ++ rest).toList ++ ['"', '}'] =
      start.toList ++ '"' :: (rest.toList ++ ['"', '}']) := by
    simp
  have hmembers : readMembers (fuel + 2) room
      (opening name ++ (start.toList ++ '"' :: (rest.toList ++ ['"', '}']))) =
        .error .malformed := by
    rw [readMembers_opening hname, readValue_append hstart]
    show (match skipGap (rest.toList ++ ['"', '}']) with
      | ',' :: more => do
          let (members, tail) ← readMembers (fuel + 1) room (skipGap more)
          return ((name, Json.string start) :: members, tail)
      | '}' :: tail => return ([(name, .string start)], tail)
      | _ => .error .malformed) = _
    rw [hrest]
    split
    · rename_i heq
      cases heq
      exact absurd rfl hcomma
    · rename_i heq
      cases heq
      exact absurd rfl hbrace
    · rfl
  rw [hparse, hvalue, hmembers]
  rfl

end SignOut.Json
