import SignOut.Proofs.Interruption
import SignOut.Proofs.Repetition

/-!
# What the removal of a session does

The removal looks for a session id in two places, makes at most two calls to the session store, and
logs that it is done.  Where the store refuses one of the calls, the removal ends there with the
effects that it had so far.

Records and indices lie under keys with the same beginning, and session ids are not restricted.  So
there are ids for which the key of the record is the name of an index: those that spell the index of
a user out.  An id that was read from a cookie is whatever the client sends, so a client that knows
the id of a user can have the index of this user deleted.  Ids without a colon never lead there.
-/

namespace SignOut

/-! ## The id of a session -/

namespace SessionRemoval

variable {s : SessionRemoval} {r : Request} {value : Json} {found : Option String} {id : String}

/-- The session of a request has a value under the configured key, and it counts as given. -/
inductive Entered (s : SessionRemoval) (r : Request) : Json → Prop
  | intro {key : String} {entries : Keyed Json} {value : Json} (hkey : s.sessionKey = some key)
      (hsession : r.session = some entries) (hentry : Keyed.get? key entries = some value)
      (hgiven : value.isTruthy = true) : Entered s r value

/-- Where the id of a session comes from: it is the text of the value in the session, or else what
the configured cookie holds, if a cookie is configured. -/
inductive Identifies (s : SessionRemoval) (r : Request) : Option String → Prop
  | entry {value : Json} (hentered : s.Entered r value) : Identifies s r (some value.plainText)
  | cookie {name : String} (hnone : ∀ value, ¬ s.Entered r value) (hname : s.cookieName = some name)
      (hgiven : name ≠ "") : Identifies s r (Keyed.get? name (Cookie.ofRequest r))
  | nothing (hnone : ∀ value, ¬ s.Entered r value) (hname : s.IgnoresCookies) : Identifies s r none

theorem entered_iff : s.Entered r value ↔ s.entry? r = some value ∧ value.isTruthy = true := by
  unfold entry?
  constructor
  · rintro ⟨hkey, hsession, hentry, hgiven⟩
    rw [hkey, hsession]
    exact ⟨hentry, hgiven⟩
  · rintro ⟨hentry, hgiven⟩
    cases hkey : s.sessionKey with
    | none =>
        rw [hkey] at hentry
        cases hentry
    | some key =>
        cases hsession : r.session with
        | none =>
            rw [hkey, hsession] at hentry
            cases hentry
        | some entries =>
            rw [hkey, hsession] at hentry
            exact ⟨hkey, hsession, hentry, hgiven⟩

theorem sessionId?_of_entered (h : s.Entered r value) : s.sessionId? r = some value.plainText := by
  obtain ⟨hentry, hgiven⟩ := entered_iff.mp h
  unfold sessionId?
  rw [hentry]
  exact if_pos hgiven

theorem sessionId?_of_not_entered (h : ∀ value, ¬ s.Entered r value) :
    s.sessionId? r = s.cookieId? r := by
  unfold sessionId?
  split
  · rfl
  · rename_i value hentry
    exact if_neg fun hgiven => h value (entered_iff.mpr ⟨hentry, hgiven⟩)

theorem cookieId?_of_cookieName {name : String} (hname : s.cookieName = some name)
    (hgiven : name ≠ "") : s.cookieId? r = Keyed.get? name (Cookie.ofRequest r) := by
  unfold cookieId?
  rw [hname]
  exact if_neg hgiven

/-- The id that is used is the one that is identified. -/
theorem identifies_iff : s.Identifies r found ↔ s.sessionId? r = found := by
  constructor
  · intro h
    cases h with
    | entry hentered => exact sessionId?_of_entered hentered
    | cookie hnone hname hgiven =>
        rw [sessionId?_of_not_entered hnone, cookieId?_of_cookieName hname hgiven]
    | nothing hnone hname => rw [sessionId?_of_not_entered hnone, cookieId?_eq_none hname]
  · rintro rfl
    by_cases hentered : ∃ value, s.Entered r value
    · obtain ⟨value, hvalue⟩ := hentered
      rw [sessionId?_of_entered hvalue]
      exact .entry hvalue
    have hnone : ∀ value, ¬ s.Entered r value := fun value h => hentered ⟨value, h⟩
    rw [sessionId?_of_not_entered hnone]
    by_cases hignores : s.IgnoresCookies
    · rw [cookieId?_eq_none hignores]
      exact .nothing hnone hignores
    cases hname : s.cookieName with
    | none => simp [IgnoresCookies, hname] at hignores
    | some name =>
        have hgiven : name ≠ "" := by simpa [IgnoresCookies, hname] using hignores
        rw [cookieId?_of_cookieName hname hgiven]
        exact .cookie hnone hname hgiven

end SessionRemoval

/-! ## What a removal comes to -/

/-- The principal has a user id; any value but nothing is one, zero and the empty text included. -/
inductive Principal.HasId : Option Principal → Json → Prop
  | user (name : String) {id : Json} (hgiven : id ≠ .null) : HasId (some (.user name (some id))) id

theorem Principal.hasId_iff {principal : Option Principal} {id : Json} :
    HasId principal id ↔ principal.bind indexId? = some id := by
  constructor
  · rintro ⟨name, hgiven⟩
    cases id with
    | null => exact absurd rfl hgiven
    | _ => rfl
  · intro h
    cases principal with
    | none => cases h
    | some principal =>
        cases principal with
        | user name given =>
            cases given with
            | none => cases h
            | some value =>
                cases value with
                | null => cases h
                | _ =>
                    cases h
                    exact .user name nofun
        | _ => cases h

/-- What the removal of the session with an id comes to: the record is deleted, then the id is
removed from the index of the principal if this has a user id, then the removal is logged.  What the
store refuses is called for but not done, and nothing comes after it. -/
inductive SessionRemoval.Removes (s : SessionRemoval) (principal : Option Principal) (e : Exchange)
    (id : String) : Except Fault Unit → Exchange → Prop
  | refusedRecord (hrefused : e.store.refuses = some .delete) :
      Removes s principal e id (.error (.raised "redis delete failed"))
        { e with calls := e.calls ++ [.deletedKey (s.recordKey id)] }
  | record (hallowed : e.store.refuses ≠ some .delete)
      (hanonymous : ∀ user, ¬ Principal.HasId principal user) :
      Removes s principal e id (.ok ())
        { e with
          calls := e.calls ++ [.deletedKey (s.recordKey id)]
          store := e.store.delete (s.recordKey id)
          records := e.records ++ [Handler.removal (e.store.countOf (s.recordKey id))] }
  | refusedMember {user : Json} (hrefused : e.store.refuses = some .remove)
      (huser : Principal.HasId principal user) :
      Removes s principal e id (.error (.raised "redis srem failed"))
        { e with
          calls := e.calls ++
            [.deletedKey (s.recordKey id), .removedMember (s.indexName user) id]
          store := e.store.delete (s.recordKey id) }
  | member {user : Json} (hallowed : e.store.refuses = none)
      (huser : Principal.HasId principal user) :
      Removes s principal e id (.ok ())
        { e with
          calls := e.calls ++
            [.deletedKey (s.recordKey id), .removedMember (s.indexName user) id]
          store := (e.store.delete (s.recordKey id)).remove (s.indexName user) id
          records := e.records ++ [Handler.removal (e.store.countOf (s.recordKey id))] }

/-- A store differs from an earlier one at most by the absence of one record and of such members of
sets as were lost. -/
structure Store.LacksAtMost (earlier later : Store) (key : String) (lost : String → String → Prop) :
    Prop where
  records_subset : later.keys ⊆ earlier.keys
  records_kept : ∀ other ∈ earlier.keys, other ≠ key → other ∈ later.keys
  members_subset : ∀ set, later.members set ⊆ earlier.members set
  members_kept : ∀ set, ∀ item ∈ earlier.members set, ¬ lost set item → item ∈ later.members set

namespace SessionRemoval.Removes

variable {s : SessionRemoval} {principal : Option Principal} {e e' : Exchange} {id : String}
  {result : Except Fault Unit}

/-- A removal leaves the request and the response alone. -/
theorem request_response_eq (h : s.Removes principal e id result e') :
    e'.request = e.request ∧ e'.response = e.response := by
  cases h with
  | _ => exact ⟨rfl, rfl⟩

/-- A removal takes nothing from the store but the record and the place in the index. -/
theorem lacksAtMost (h : s.Removes principal e id result e') :
    e.store.LacksAtMost e'.store (s.recordKey id) fun set item =>
      ∃ user, Principal.HasId principal user ∧ set = s.indexName user ∧ item = id := by
  have hdeleted : (e.store.delete (s.recordKey id)).keys ⊆ e.store.keys :=
    fun key hkey => (Store.mem_keys_delete.mp hkey).1
  have hkept : ∀ other ∈ e.store.keys, other ≠ s.recordKey id →
      other ∈ (e.store.delete (s.recordKey id)).keys :=
    fun other hother hne => Store.mem_keys_delete.mpr ⟨hother, hne⟩
  cases h with
  | refusedRecord hrefused =>
      exact ⟨fun _ h => h, fun _ h _ => h, fun _ _ h => h, fun _ _ h _ => h⟩
  | record hallowed hanonymous =>
      exact ⟨hdeleted, hkept, fun _ _ h => h, fun _ _ h _ => h⟩
  | refusedMember hrefused huser =>
      exact ⟨hdeleted, hkept, fun _ _ h => h, fun _ _ h _ => h⟩
  | @member user hallowed huser =>
      refine ⟨hdeleted, hkept, ?_, ?_⟩
      · exact fun set item hitem => (Store.mem_members_remove.mp hitem).1
      · intro set item hitem hlost
        refine Store.mem_members_remove.mpr ⟨hitem, ?_⟩
        rintro rfl rfl
        exact hlost ⟨user, huser, rfl, rfl⟩

/-- A removal has one key deleted, and this is the key of the record. -/
theorem exists_calls (h : s.Removes principal e id result e') :
    ∃ rest, e'.calls = e.calls ++ .deletedKey (s.recordKey id) :: rest ∧
      ∀ key, .deletedKey key ∉ rest := by
  have hmember : ∀ set key : String, Call.deletedKey key ∉ [.removedMember set id] := by
    intro set key hmem
    cases List.mem_singleton.mp hmem
  cases h with
  | refusedRecord hrefused => exact ⟨[], rfl, fun _ => List.not_mem_nil⟩
  | record hallowed hanonymous => exact ⟨[], rfl, fun _ => List.not_mem_nil⟩
  | refusedMember hrefused huser => exact ⟨_, rfl, hmember _⟩
  | member hallowed huser => exact ⟨_, rfl, hmember _⟩

end SessionRemoval.Removes

namespace Handler

variable {s : SessionRemoval} {principal : Option Principal} {e : Exchange} {id : String}

/-- Without an id there is nothing to remove. -/
theorem exec_removeSession_of_unidentified (h : (s.sessionId? e.request).getD "" = "") :
    Run.exec (removeSession s principal) e = (.ok (), e) := by
  unfold removeSession
  rw [Run.exec_bind_of_ok (Run.exec_request e)]
  cases hid : s.sessionId? e.request with
  | none => rfl
  | some id =>
      rw [hid] at h
      obtain rfl : id = "" := h
      rfl

/-- With an id the session is removed as far as the store allows it. -/
theorem removes_of_sessionId? (principal : Option Principal)
    (hid : s.sessionId? e.request = some id) (hgiven : id ≠ "") :
    ∃ result e', Run.exec (removeSession s principal) e = (result, e') ∧
      s.Removes principal e id result e' := by
  by_cases hdelete : e.store.refuses = some .delete
  · exact ⟨_, _, exec_removeSession_of_refused_delete hid hgiven hdelete, .refusedRecord hdelete⟩
  have hdeleted := Run.exec_deleteKey (s.recordKey id) e
  rw [if_neg hdelete] at hdeleted
  cases huser : principal.bind Principal.indexId? with
  | none =>
      refine ⟨_, _, ?_, .record hdelete fun user h => ?_⟩
      · rw [exec_removeSession hid hgiven, Run.exec_bind_of_ok hdeleted, removeFromIndex, huser]
        rfl
      · cases huser.symm.trans (Principal.hasId_iff.mp h)
  | some user =>
      have hhas : Principal.HasId principal user := Principal.hasId_iff.mpr huser
      by_cases hremove : e.store.refuses = some .remove
      · exact ⟨_, _, exec_removeSession_of_refused_remove hid hgiven huser hremove,
          .refusedMember hremove hhas⟩
      have hallowed : e.store.refuses = none := by
        cases hrefuses : e.store.refuses with
        | none => rfl
        | some operation =>
            cases operation with
            | delete => exact absurd hrefuses hdelete
            | remove => exact absurd hrefuses hremove
      refine ⟨_, _, ?_, .member hallowed hhas⟩
      let deleted : Exchange :=
        { e with
          calls := e.calls ++ [.deletedKey (s.recordKey id)]
          store := e.store.delete (s.recordKey id) }
      have hremoved := (Run.exec_removeMember (s.indexName user) id deleted).trans (if_neg hremove)
      rw [exec_removeSession hid hgiven, Run.exec_bind_of_ok hdeleted, removeFromIndex, huser]
      rw [Run.exec_bind_of_ok hremoved, Run.exec_log]
      simp [deleted]

/-- What the removal of a session does to everything, for every place where an id may be found,
every principal and every store.  The id is found in one way only, and without one nothing happens.
With one the removal makes its calls in order, up to the first that the store refuses, and neither
the request nor the response nor any other part of the store is touched. -/
theorem removeSession_effect (s : SessionRemoval) (principal : Option Principal) (e : Exchange) :
    ∃ found, (∀ other, s.Identifies e.request other ↔ other = found) ∧
      (found.getD "" = "" → Run.exec (removeSession s principal) e = (.ok (), e)) ∧
      ∀ id, found = some id → id ≠ "" →
        ∃ result e', Run.exec (removeSession s principal) e = (result, e') ∧
          s.Removes principal e id result e' ∧
          e'.request = e.request ∧ e'.response = e.response ∧
          e.store.LacksAtMost e'.store (s.recordKey id) fun set item =>
            ∃ user, Principal.HasId principal user ∧ set = s.indexName user ∧ item = id := by
  refine ⟨s.sessionId? e.request, fun other => ?_, exec_removeSession_of_unidentified, ?_⟩
  · exact SessionRemoval.identifies_iff.trans eq_comm
  · intro id hid hgiven
    obtain ⟨result, e', hexec, hremoves⟩ := removes_of_sessionId? principal hid hgiven
    obtain ⟨hrequest, hresponse⟩ := hremoves.request_response_eq
    exact ⟨result, e', hexec, hremoves, hrequest, hresponse, hremoves.lacksAtMost⟩

/-- A user whose id is zero. -/
def sampleZero : Principal :=
  .user "zoe" (some (.int 0))

/-- A store that keeps its indices closed has lost the record all the same, for a user with the id
zero; and without a session there is nothing to do. -/
theorem removeSession_effect_sample :
    (∃ e', Run.exec (removeSession .standard (some sampleZero)) Stage.refusingExchange =
        (.error (.raised "redis srem failed"), e') ∧
      e'.calls = [.deletedKey "auth_session:s1",
        .removedMember "auth_session:user:0:global" "s1"] ∧
      e'.store.keys = [] ∧ e'.records = []) ∧
    ∀ e, e.request.session = none → Run.exec (removeSession .standard none) e = (.ok (), e) := by
  refine ⟨?_, ?_⟩
  · obtain ⟨found, hfound, -, heffect⟩ :=
      removeSession_effect .standard (some sampleZero) Stage.refusingExchange
    have hid : found = some "s1" := ((hfound _).mp (.entry (.intro rfl rfl rfl rfl))).symm
    obtain ⟨result, e', hexec, hremoves, -⟩ := heffect "s1" hid (by decide)
    have hzero : Principal.HasId (some sampleZero) (.int 0) := .user "zoe" nofun
    cases hremoves with
    | refusedRecord hrefused => cases hrefused
    | record hallowed hanonymous => exact absurd hzero (hanonymous _)
    | @refusedMember user hrefused huser =>
        cases huser
        exact ⟨_, hexec, rfl, rfl, rfl⟩
    | member hallowed huser => cases hallowed
  · intro e hsession
    obtain ⟨found, hfound, hnothing, -⟩ := removeSession_effect .standard none e
    have hnone : ∀ value, ¬ SessionRemoval.standard.Entered e.request value := by
      rintro value ⟨-, hentries, -⟩
      cases hsession.symm.trans hentries
    have hid : none = found := (hfound _).mp (.nothing hnone rfl)
    exact hnothing (by rw [← hid]; rfl)

end Handler

/-! ## Keys of records and names of indices -/

namespace SessionRemoval

variable {s : SessionRemoval} {id : String} {user : Json}

/-- The session id that spells the index of a user out. -/
def indexId (user : Json) : String :=
  "user:" ++ user.plainText ++ ":global"

/-- The key of a record is the name of an index iff the session id spells this index out. -/
theorem recordKey_eq_indexName_iff (s : SessionRemoval) :
    s.recordKey id = s.indexName user ↔ id = indexId user := by
  have hstart : ":user:" = ":" ++ "user:" := by decide
  unfold recordKey indexName indexId
  rw [hstart]
  simp only [String.append_assoc, String.append_right_inj]

/-- Two users have the same index iff their ids have the same text. -/
theorem indexName_eq_indexName_iff (s : SessionRemoval) {other : Json} :
    s.indexName user = s.indexName other ↔ user.plainText = other.plainText := by
  unfold indexName
  simp only [String.append_left_inj, String.append_right_inj]

theorem colon_mem_indexId (user : Json) : ':' ∈ (indexId user).toList := by
  unfold indexId
  simp only [String.toList_append, List.mem_append]
  exact Or.inl (Or.inl (by decide))

theorem indexId_ne_empty (user : Json) : indexId user ≠ "" := by
  intro h
  have hcolon := colon_mem_indexId user
  rw [h] at hcolon
  cases hcolon

end SessionRemoval

namespace Handler

open SessionRemoval

variable (s : SessionRemoval) (principal : Option Principal) (e : Exchange)

/-- A removal has the index of a user deleted iff the session id of the request spells it out. -/
theorem exists_calls_of_removeSession :
    ∃ own, (Run.exec (removeSession s principal) e).2.calls = e.calls ++ own ∧
      ∀ user, .deletedKey (s.indexName user) ∈ own ↔
        s.sessionId? e.request = some (indexId user) := by
  by_cases hempty : (s.sessionId? e.request).getD "" = ""
  · refine ⟨[], ?_, fun user => ⟨fun h => absurd h List.not_mem_nil, fun h => ?_⟩⟩
    · rw [exec_removeSession_of_unidentified hempty, List.append_nil]
    · rw [h] at hempty
      exact absurd hempty (indexId_ne_empty user)
  obtain ⟨id, hid⟩ : ∃ id, s.sessionId? e.request = some id := by
    cases hid : s.sessionId? e.request with
    | none => exact absurd (congrArg (·.getD "") hid) hempty
    | some id => exact ⟨id, rfl⟩
  rw [hid] at hempty
  obtain ⟨result, e', hexec, hremoves⟩ := removes_of_sessionId? principal hid hempty
  obtain ⟨rest, hcalls, hrest⟩ := hremoves.exists_calls
  refine ⟨_, by rw [hexec]; exact hcalls, fun user => ?_⟩
  rw [List.mem_cons, or_iff_left (hrest _), Call.deletedKey.injEq, eq_comm,
    s.recordKey_eq_indexName_iff, hid, Option.some.injEq]

/-- Keys of records and names of indices under one beginning do coincide, but only for those session
ids that spell an index out.  A removal has the index of a user deleted iff the request comes with
such an id, and no id without a colon has any index deleted. -/
theorem deletes_indexName_iff :
    (∀ id user, s.recordKey id = s.indexName user ↔ id = indexId user) ∧
    ∃ own, (Run.exec (removeSession s principal) e).2.calls = e.calls ++ own ∧
      (∀ user, .deletedKey (s.indexName user) ∈ own ↔
        s.sessionId? e.request = some (indexId user)) ∧
      ((∀ id, s.sessionId? e.request = some id → ':' ∉ id.toList) →
        ∀ user, .deletedKey (s.indexName user) ∉ own) := by
  refine ⟨fun id user => s.recordKey_eq_indexName_iff, ?_⟩
  obtain ⟨own, hcalls, hdeletes⟩ := exists_calls_of_removeSession s principal e
  refine ⟨own, hcalls, hdeletes, fun hcolon user hmem => ?_⟩
  exact hcolon _ ((hdeletes user).mp hmem) (colon_mem_indexId user)

/-- A plain id leaves all indices alone. -/
theorem deletes_indexName_iff_sample :
    ∃ own, (Run.exec (removeSession .standard (some Stage.samplePrincipal))
        Stage.sampleExchange).2.calls = own ∧
      ∀ user, .deletedKey (SessionRemoval.standard.indexName user) ∉ own := by
  obtain ⟨-, own, hcalls, -, hplain⟩ :=
    deletes_indexName_iff .standard (some Stage.samplePrincipal) Stage.sampleExchange
  have hid : SessionRemoval.standard.sessionId? Stage.sampleExchange.request = some "s1" := rfl
  refine ⟨own, hcalls, hplain fun id hsome => ?_⟩
  cases hid.symm.trans hsome
  decide

/-- A request without a session whose cookie spells the index of a user out. -/
def spellingExchange : Exchange :=
  { Stage.sampleExchange with
    request :=
      { Stage.sampleExchange.request with
        headers := [("cookie", "sid=user:u1:global")], session := none }
    store :=
      { keys := ["auth_session:user:u1:global", "auth_session:s1"]
        sets := [("auth_session:user:u1:global", ["s1", "s2"])], refuses := none } }

/-- The key of a record can be the name of an index, and a client can have an index deleted. -/
theorem deletes_spelled_index :
    let s : SessionRemoval := { SessionRemoval.standard with cookieName := some "sid" }
    let ended := Run.exec (removeSession s none) spellingExchange
    s.recordKey "user:u1:global" = s.indexName (.string "u1") ∧
      ended.1 = .ok () ∧ ended.2.calls = [.deletedKey (s.indexName (.string "u1"))] ∧
      s.indexName (.string "u1") ∈ spellingExchange.store.keys ∧
      s.indexName (.string "u1") ∉ ended.2.store.keys :=
  ⟨rfl, rfl, rfl, by decide, by decide⟩

end Handler

/-! ## Cookies that spell an index out -/

namespace SessionRemoval

open Text

variable {s : SessionRemoval} {r : Request} {name id : String}

/-- Without a session, the id is what the single cookie of a request says. -/
theorem sessionId?_of_cookie (hname : s.cookieName = some name)
    (hlegal : Cookie.isLegalName name = true) (hid : ';' ∉ id.toList)
    (hstrip : strip id.toList = id.toList) (hquote : id.toList.head? ≠ some '"')
    (hsession : r.session = none) (hheaders : r.headers = [("cookie", name ++ "=" ++ id)]) :
    s.sessionId? r = some id := by
  obtain ⟨hgiven, hchars⟩ := Bool.and_eq_true_iff.mp hlegal
  have hempty : name.toList ≠ [] := by simpa using hgiven
  have hname' := List.all_eq_true.mp hchars
  have hline : (name ++ "=" ++ id).toList = name.toList ++ '=' :: id.toList := by simp
  have hfields : fields ';' (name ++ "=" ++ id).toList = [name.toList ++ '=' :: id.toList] := by
    rw [hline]
    refine fields_of_not_mem fun h => ?_
    rcases List.mem_append.mp h with h | h
    · exact (Cookie.plain_of_isNameChar (hname' _ h)).2.1 rfl
    · rcases List.mem_cons.mp h with h | h
      · cases h
      · exact hid h
  have hvalues : r.headerValues "cookie" = [name ++ "=" ++ id] := by
    simp [Request.headerValues, hheaders]
  have hcookies : Cookie.ofRequest r = [(name, id)] := by
    unfold Cookie.ofRequest
    rw [hvalues, List.flatMap_singleton, hfields, List.filterMap_cons,
      Cookie.ofPiece?_of_plain hname' hstrip hempty hquote, String.ofList_toList,
      String.ofList_toList]
    rfl
  have hnone : ∀ value, ¬ s.Entered r value := by
    rintro value ⟨-, hentries, -⟩
    cases hsession.symm.trans hentries
  have hne : name ≠ "" := by
    rintro rfl
    exact hempty rfl
  rw [sessionId?_of_not_entered hnone, cookieId?_of_cookieName hname hne, hcookies]
  exact if_pos rfl

end SessionRemoval

/-- A client can have the index of every user deleted whose id has a text without a semicolon,
wherever session ids are read from a cookie: it sends no session and the right cookie. -/
theorem Handler.deletes_index_of_cookie {s : SessionRemoval} {name : String} {user : Json}
    (hname : s.cookieName = some name) (hlegal : Cookie.isLegalName name = true)
    (huser : ';' ∉ user.plainText.toList) (principal : Option Principal) {e : Exchange}
    (hsession : e.request.session = none)
    (hheaders : e.request.headers = [("cookie", name ++ "=" ++ SessionRemoval.indexId user)]) :
    .deletedKey (s.indexName user) ∈ (Run.exec (removeSession s principal) e).2.calls := by
  have htext : (SessionRemoval.indexId user).toList =
      'u' :: ("ser:".toList ++ user.plainText.toList ++ ":globa".toList ++ ['l']) := by
    simp [SessionRemoval.indexId]
  have hid : s.sessionId? e.request = some (SessionRemoval.indexId user) := by
    refine SessionRemoval.sessionId?_of_cookie hname hlegal ?_ ?_ ?_ hsession hheaders
    · rw [htext]
      simp [huser]
    · rw [htext]
      refine Text.trimBy_eq_self (fun c hc => ?_) (fun c hc => ?_)
      · cases hc
        decide
      · rw [← List.cons_append, List.getLast?_append] at hc
        cases hc
        decide
    · rw [htext]
      simp
  obtain ⟨own, hcalls, hdeletes⟩ := exists_calls_of_removeSession s principal e
  rw [hcalls]
  exact List.mem_append_right _ ((hdeletes user).mpr hid)

end SignOut
