import SignOut.Proofs.Origin
import SignOut.Proofs.Script

/-!
# The stored session

A sign-out through a chain with a session store takes the record of the session out of the store.
The record is found through the entry of the request's session, which the same chain clears later
on; so it matters that nothing ahead of the removal touches that entry, and nothing does, unless a
handler ahead of it clears the session or belongs to the application and writes to it.  The removal
cannot be skipped, for a sign-out only completes if every handler does, and what runs behind it
only removes more.  So whatever else a history brings in, and in whatever order, no completed
sign-out leaves the record or its entry in the index of the user behind.
-/

namespace SignOut

/-! ## Records that stay removed -/

namespace Frame

/-- The frame of the records of stored sessions: one that was removed is not brought back, and
neither is an entry in the index of a user. -/
def barring (s : SessionRemoval) : Frame where
  Rel e e' :=
    ∀ id, (s.recordKey id ∉ e.store.keys → s.recordKey id ∉ e'.store.keys) ∧
      ∀ user, id ∉ e.store.members (s.indexName user) →
        id ∉ e'.store.members (s.indexName user)
  refl _ _ := ⟨fun h => h, fun _ h => h⟩
  trans h h' id :=
    ⟨fun hid => (h' id).1 ((h id).1 hid), fun user hid => (h' id).2 user ((h id).2 user hid)⟩
  recorded _ _ _ := ⟨fun h => h, fun _ h => h⟩

variable {s : SessionRemoval}

instance : (barring s).AllowsWork where
  answered _ _ _ := ⟨fun h => h, fun _ h => h⟩
  deleted _ _ _ := ⟨fun h hmem => h (Store.mem_keys_delete.mp hmem).1, fun _ h => h⟩
  removed _ _ _ _ := ⟨fun h => h, fun _ h hmem => h (Store.mem_members_remove.mp hmem).1⟩
  logged _ _ _ _ := ⟨fun h => h, fun _ h => h⟩

theorem barring_admits {a : Handler.Action}
    (h : ∀ collaborator, a = .custom collaborator → (barring s).AdmitsDeeds collaborator) :
    (barring s).Admits a := by
  exact admits_of_deeds (fun _ _ _ _ _ => ⟨fun h => h, fun _ h => h⟩) h

end Frame

/-! ## The removal -/

/-- The entry of the session decides on the id if it counts as given. -/
theorem SessionRemoval.sessionId?_of_entry? {s : SessionRemoval} {r : Request} {value : Json}
    (hentry : s.entry? r = some value) (hgiven : value.isTruthy = true) :
    s.sessionId? r = some value.plainText := by
  unfold SessionRemoval.sessionId?
  rw [hentry]
  exact if_pos hgiven

namespace Handler

variable {s : SessionRemoval} {principal : Option Principal} {e e' : Exchange} {id : String}

/-- The record under an id is gone, and so is its entry in the index of the principal. -/
def Removed (s : SessionRemoval) (principal : Option Principal) (id : String) (e : Exchange) :
    Prop :=
  s.recordKey id ∉ e.store.keys ∧
    ∀ user, principal.bind Principal.indexId? = some user →
      id ∉ e.store.members (s.indexName user)

/-- A removal that completes removed the record of the session and its entry in the index. -/
theorem removed_of_exec_removeSession (hid : s.sessionId? e.request = some id) (hgiven : id ≠ "")
    (h : Run.exec (removeSession s principal) e = (.ok (), e')) : Removed s principal id e' := by
  rw [exec_removeSession hid hgiven] at h
  obtain ⟨deleted, e₁, hdelete, h⟩ := Run.exec_bind_eq_ok_iff.mp h
  obtain ⟨u, e₂, hindex, h⟩ := Run.exec_bind_eq_ok_iff.mp h
  cases h
  have hgone : s.recordKey id ∉ e₁.store.keys := by
    rw [Run.exec_deleteKey] at hdelete
    split at hdelete
    · cases hdelete
    · cases hdelete
      simp
  unfold removeFromIndex at hindex
  split at hindex
  · rename_i hnone
    cases hindex
    refine ⟨hgone, fun user huser => ?_⟩
    cases hnone.symm.trans huser
  · rename_i user huser
    rw [Run.exec_removeMember] at hindex
    split at hindex
    · cases hindex
    · cases hindex
      refine ⟨hgone, fun other hother => ?_⟩
      cases huser.symm.trans hother
      simp

theorem Removed.of_barring (h : Removed s principal id e) (hrel : (Frame.barring s).Rel e e') :
    Removed s principal id e' :=
  ⟨(hrel id).1 h.1, fun user huser => (hrel id).2 user (h.2 user huser)⟩

end Handler

namespace Configuration.Course.Completes

variable {course : Course} {c : Configuration} {principal : Option Principal} {e : Exchange}
  {path : String}

/-- A course through a chain with a removal, ahead of which the entry of the session is kept and
behind which no record is brought back, leaves the record removed. -/
theorem removed (h : course.Completes c principal e path) {s : SessionRemoval}
    {before after : List Handler} (hchain : c.handlers = before ++ .one (.removeSession s) :: after)
    (hbefore : ∀ handler ∈ before, ∀ a ∈ handler.actions, (Frame.keeping s.entry?).Admits a)
    (hafter : ∀ handler ∈ after, ∀ a ∈ handler.actions, (Frame.barring s).Admits a)
    (hanswers : ∀ a ∈ course.chosen.answers, (Frame.barring s).AdmitsAnswer a) {value : Json}
    (hentry : s.entry? e.request = some value) (hgiven : value.isTruthy = true) :
    Handler.Removed s principal value.plainText course.answered := by
  have hhandled := h.handled
  rw [hchain] at hhandled
  obtain ⟨_, e₁, _, hearlier, hrest⟩ := hhandled.exists_of_append
  cases hrest with
  | @cons _ _ _ e₂ _ _ _ hremove hcalls hlater =>
      -- the entry by which the record is found is still there when the removal starts
      have hkept : s.entry? e₁.request = s.entry? course.matched.opened.request :=
        hearlier.rel (F := Frame.keeping s.entry?) fun handler hmem =>
          Frame.holds_perform (hbefore handler hmem) principal
      have hfound : s.entry? e₁.request = some value := by
        rw [hkept, ← hentry, ← h.request_matched_eq]
        rfl
      have hremoved : Handler.Removed s principal value.plainText e₂ :=
        Handler.removed_of_exec_removeSession (SessionRemoval.sessionId?_of_entry? hfound hgiven)
          (Json.plainText_ne_empty hgiven) hremove
      -- and what follows the removal brings nothing back
      have hlater : (Frame.barring s).Rel e₂ course.cleared :=
        hlater.rel fun handler hmem => Frame.holds_perform (hafter handler hmem) principal
      have hgive : (Frame.barring s).Rel course.routed course.answered :=
        (Frame.holds_give hanswers principal).rel h.answered
      exact ((hremoved.of_barring hlater).of_barring h.chosen.rel).of_barring hgive

end Configuration.Course.Completes

/-! ## Histories with a session store -/

/-- A filter removes stored sessions: whenever it answers a request whose session has an entry that
counts as given under the key of the removal, the record of that id is gone from the store, and so
is the id from the index of the principal. -/
def StageFilter.RemovesStored (filter : StageFilter) (s : SessionRemoval) : Prop :=
  ∀ principal e response e',
    Run.exec (filter.process principal) e = (.ok (some response), e') →
    ∀ value, s.entry? e.request = some value → value.isTruthy = true →
      Handler.Removed s principal value.plainText e'

namespace Assembly

/-- The collaborators of the application let the removal of a stored session take effect: the
handlers that were added ahead of it leave the entry alone by which it finds the session, and
whatever can run behind it brings no record back. -/
structure LetRemove (calls : List Call) (before after : List Options.Call) (s : SessionRemoval) :
    Prop where
  ahead : ∀ handler ∈ before.filterMap Options.Call.handler?, ∀ collaborator,
    .custom collaborator ∈ handler.actions → (Frame.keeping s.entry?).AdmitsDeeds collaborator
  behind : ∀ handler ∈ after.filterMap Options.Call.handler?, ∀ collaborator,
    .custom collaborator ∈ handler.actions → (Frame.barring s).AdmitsDeeds collaborator
  services : ∀ collaborator, lastGiven Call.rememberMe? calls = some (.custom collaborator) →
    (Frame.barring s).AdmitsDeeds collaborator
  routes : ∀ route ∈ addedRoutes calls, ∀ collaborator,
    .custom collaborator ∈ route.2.answers → (Frame.barring s).AdmitsDeeds collaborator
  fallback : ∀ success, lastGiven Options.Call.fallback? (optionCalls calls) = some success →
    ∀ collaborator, .custom collaborator ∈ success.answers →
      (Frame.barring s).AdmitsDeeds collaborator

variable {calls : List Call} {before after : List Options.Call} {s : SessionRemoval}
  {filter : StageFilter}

/-- Ahead of the removal, the entry of the session is kept if no handler clears the session. -/
theorem keeping_admits_ahead (hlet : LetRemove calls before after s)
    (hclear : ∀ handler ∈ before.filterMap Options.Call.handler?, ∀ session authentication,
      .clearContext session authentication ∈ handler.actions → session.isOn = false) :
    ∀ handler ∈ before.filterMap Options.Call.handler?, ∀ a ∈ handler.actions,
      (Frame.keeping s.entry?).Admits a := by
  intro handler hmem a ha
  refine Frame.admits_of_deeds ?_ ?_
  · rintro session authentication rfl e
    have hoff := hclear handler hmem session authentication ha
    show s.entry? (Handler.clearedRequest session.isOn authentication.isOn e.request) = _
    unfold SessionRemoval.entry?
    rw [Handler.session_clearedRequest, hoff]
    rfl
  · rintro collaborator rfl
    exact hlet.ahead handler hmem collaborator ha

/-- What a history appends to its chain brings no record back. -/
theorem barring_admits_appended (hlet : LetRemove calls before after s) {handler : Handler}
    (h : Appended calls handler) : ∀ a ∈ handler.actions, (Frame.barring s).Admits a := by
  intro a ha
  refine Frame.barring_admits ?_
  rintro collaborator rfl
  cases h with
  | @services services _ hgiven hhandler hfit =>
      cases services with
      | custom given =>
          cases hhandler
          cases List.mem_singleton.mp ha
          exact hlet.services _ hgiven
      | withLogout =>
          cases hhandler
          cases List.mem_singleton.mp ha
      | unawaited =>
          cases hhandler
          cases List.mem_singleton.mp ha
      | only => cases hhandler
      | object => cases hhandler
      | withdrawn => cases hhandler
  | token hprotects hgiven => cases List.mem_singleton.mp ha
  | context => cases List.mem_singleton.mp ha
  | event hgiven => cases List.mem_singleton.mp ha

/-- No answer of a history brings a record back. -/
theorem barring_admits_answering (hlet : LetRemove calls before after s) {success : Success}
    (h : Answering calls success) : ∀ a ∈ success.answers, (Frame.barring s).AdmitsAnswer a := by
  intro a ha
  refine Frame.admitsAnswer_of_deeds ?_
  rintro collaborator rfl
  cases h with
  | route hmem => exact hlet.routes _ hmem collaborator ha
  | given hgiven => exact hlet.fallback _ hgiven collaborator ha
  | redirect hurl => cases List.mem_singleton.mp ha
  | negotiated => cases List.mem_singleton.mp ha

/-- A filter removes stored sessions if its history registers a session store for them. -/
theorem removesStored_of_optionCalls (hbuilt : (initial.applyAll calls).build.result = .ok filter)
    (hstore : optionCalls calls = before ++ .addSessionStore (some s) :: after)
    (hclear : ∀ handler ∈ before.filterMap Options.Call.handler?, ∀ session authentication,
      .clearContext session authentication ∈ handler.actions → session.isOn = false)
    (hlet : LetRemove calls before after s) : filter.RemovesStored s := by
  intro principal e response e' hprocess value hentry hgiven
  obtain ⟨c, course, path, records, hc, hcourse, rfl⟩ := completes_of_build hbuilt hprocess
  obtain ⟨appended, hhandlers, happended⟩ := exists_appended hc
  have hchain : c.handlers = before.filterMap Options.Call.handler? ++
      .one (.removeSession s) :: (after.filterMap Options.Call.handler? ++ appended) := by
    rw [hhandlers]
    unfold addedHandlers
    rw [hstore]
    simp
  refine hcourse.removed hchain (keeping_admits_ahead hlet hclear) ?_
    (barring_admits_answering hlet
      (answering_of_buildConfiguration hc hcourse.chosen.eq_fallback_or_mem))
    (by rw [StageFilter.request_entered, hentry]) hgiven
  intro handler hmem
  rcases List.mem_append.mp hmem with hbehind | hmem
  · exact fun a ha => Frame.barring_admits fun collaborator heq =>
      hlet.behind handler hbehind collaborator (heq ▸ ha)
  · exact barring_admits_appended hlet (happended handler hmem)

/-! ## Settings with a session store -/

variable {settings : Settings}

/-- With a session store, settings make one more call: they register it behind all others. -/
theorem optionCalls_ofSettings (h : (ofSettings settings true).failure = none)
    (calls : List Call) :
    optionCalls (settings.assemblyCalls true ++ calls) =
      settings.optionCalls false ++
        .addSessionStore (some settings.sessionRemoval) :: optionCalls calls := by
  have hstore : settings.optionCalls true =
      settings.optionCalls false ++ [.addSessionStore (some settings.sessionRemoval)] := by
    simp [Settings.optionCalls]
  rw [← optionCalls_assemblyCalls h] at hstore
  unfold optionCalls at hstore ⊢
  rw [List.flatMap_append, hstore, List.append_assoc]
  rfl

/-- The only handler that settings add ahead of a session store expires cookies. -/
theorem eq_of_mem_optionCalls_settings {handler : Handler}
    (h : handler ∈ (settings.optionCalls false).filterMap Options.Call.handler?) :
    ∃ names path domain, handler = .one (.expireCookies names path domain) := by
  have hcookies : (settings.optionCalls false).filterMap Options.Call.handler? =
      if settings.deleteCookies.isEmpty then []
      else [.one (.expireCookies settings.deleteCookies (some "/") none)] := by
    unfold Settings.optionCalls
    split <;> split <;> simp [List.filterMap_cons]
  rw [hcookies] at h
  split at h
  · cases h
  · exact ⟨_, _, _, List.mem_singleton.mp h⟩

theorem filterMap_route?_settings (settings : Settings) :
    (settings.optionCalls false).filterMap Options.Call.route? = [] := by
  unfold Settings.optionCalls
  split <;> split <;> rfl

theorem filterMap_fallback?_settings (settings : Settings) :
    (settings.optionCalls false).filterMap Options.Call.fallback? = [] := by
  unfold Settings.optionCalls
  split <;> split <;> rfl

/-- Settings bring in no collaborators of the application. -/
theorem letRemove_of_settings
    (hlet : LetRemove calls [] (optionCalls calls) settings.sessionRemoval)
    (hstore : optionCalls (settings.assemblyCalls true ++ calls) =
      settings.optionCalls false ++
        .addSessionStore (some settings.sessionRemoval) :: optionCalls calls) :
    LetRemove (settings.assemblyCalls true ++ calls) (settings.optionCalls false)
      (optionCalls calls) settings.sessionRemoval where
  ahead := by
    intro handler hmem collaborator ha
    obtain ⟨names, path, domain, rfl⟩ := eq_of_mem_optionCalls_settings hmem
    cases List.mem_singleton.mp ha
  behind := hlet.behind
  services := hlet.services
  routes := by
    intro route hmem
    unfold addedRoutes at hmem
    rw [hstore, List.filterMap_append, filterMap_route?_settings] at hmem
    exact hlet.routes route hmem
  fallback := by
    intro success hgiven
    unfold lastGiven at hgiven
    rw [hstore, List.filterMap_append, filterMap_fallback?_settings] at hgiven
    exact hlet.fallback success hgiven

/-! ## What no sign-out leaves behind -/

/-- A script that registers a session store has stored sessions removed, provided that no handler
that was added ahead of the store clears the session, at whatever depth it stands.  So does every
script that starts from settings with a session store, which is registered ahead of everything that
can be added later.  Nothing else has a say: neither the other handlers and their order, nor
request-forgery protection, remember-me services, events, routes or answers, as long as the
application's own collaborators let the removal take effect. -/
theorem removesStored_of_build :
    (∀ {a history before after s} {filter : StageFilter}, LeftBy a history →
      a.build.result = .ok filter →
      optionCalls history = before ++ .addSessionStore (some s) :: after →
      (∀ handler ∈ before.filterMap Options.Call.handler?, ∀ session authentication,
        .clearContext session authentication ∈ handler.actions → session.isOn = false) →
      LetRemove history before after s → filter.RemovesStored s) ∧
    ∀ {settings script} {filter : StageFilter}, (ofSettings settings true).failure = none →
      ((ofSettings settings true).assembly.perform script).build.result = .ok filter →
      LetRemove (madeCalls script) [] (optionCalls (madeCalls script)) settings.sessionRemoval →
      filter.RemovesStored settings.sessionRemoval := by
  refine ⟨?_, ?_⟩
  · intro a history before after s filter hleft hbuilt hstore hclear hlet
    obtain rfl := hleft.eq
    exact removesStored_of_optionCalls hbuilt hstore hclear hlet
  · intro settings script filter hsettings hbuilt hlet
    rw [(LeftBy.script (.settings hsettings) script).eq] at hbuilt
    have hstore := optionCalls_ofSettings hsettings (madeCalls script)
    refine removesStored_of_optionCalls hbuilt hstore ?_ (letRemove_of_settings hlet hstore)
    intro handler hmem session authentication ha
    obtain ⟨names, path, domain, rfl⟩ := eq_of_mem_optionCalls_settings hmem
    cases List.mem_singleton.mp ha

/-- A script that takes a filter before it registers a session store between two handlers of its
own, of which the second clears the session. -/
def sampleStored : List Operation :=
  [.make (.logout [.ok (.setRequestMatcher (.atom .everything)),
      .ok (.addHandler (.many [.one (.custom sampleAudit)]))]),
    .build,
    .make (.logout [.ok (.addSessionStore (some .standard)),
      .ok (.addHandler (.one (.clearContext .on .on)))]),
    .make (.logout [.ok (.setDefaultSuccessHandler (.answer (.recording "farewell" (some 200))))])]

/-- A script that only sets the two things that the sample needs to answer. -/
def sampleAnswering : List Operation :=
  [.make (.logout [.ok (.setRequestMatcher (.atom .everything)),
    .ok (.setDefaultSuccessHandler (.answer (.recording "farewell" (some 200))))])]

/-- The request of the sample, with two sessions of its user in the store. -/
def storedExchange : Exchange :=
  { Stage.sampleExchange with
    store :=
      { keys := ["auth_session:s1", "auth_session:s2"]
        sets := [("auth_session:user:u1:global", ["s1", "s2"])], refuses := none } }

theorem letRemove_sampleStored :
    LetRemove (madeCalls sampleStored)
      [.setRequestMatcher (.atom .everything), .addHandler (.many [.one (.custom sampleAudit)])]
      [.addHandler (.one (.clearContext .on .on)),
        .setDefaultSuccessHandler (.answer (.recording "farewell" (some 200)))] .standard where
  ahead := by
    intro handler hmem collaborator ha
    rw [List.mem_singleton.mp hmem] at ha
    cases List.mem_singleton.mp ha
    exact fun _ _ => rfl
  behind := by
    intro handler hmem collaborator ha
    rw [List.mem_singleton.mp hmem] at ha
    cases List.mem_singleton.mp ha
  services := by
    intro collaborator h
    cases h
  routes := by
    intro route hmem
    cases hmem
  fallback := by
    intro success h collaborator ha
    cases h
    cases List.mem_singleton.mp ha

theorem letRemove_sampleAnswering :
    LetRemove (madeCalls sampleAnswering) [] (optionCalls (madeCalls sampleAnswering))
      Settings.standard.sessionRemoval where
  ahead := nofun
  behind := by
    intro handler hmem
    cases hmem
  services := by
    intro collaborator h
    cases h
  routes := by
    intro route hmem
    cases hmem
  fallback := by
    intro success h collaborator ha
    cases h
    cases List.mem_singleton.mp ha

theorem removesStored_sample :
    (∃ filter response e', (initial.perform sampleStored).build.result = .ok filter ∧
      Run.exec (filter.process (some Stage.samplePrincipal)) storedExchange =
        (.ok (some response), e') ∧
      "auth_session:s1" ∉ e'.store.keys ∧
      "s1" ∉ e'.store.members "auth_session:user:u1:global") ∧
    ∃ filter : StageFilter,
      ((ofSettings .standard true).assembly.perform sampleAnswering).build.result = .ok filter ∧
        filter.RemovesStored Settings.standard.sessionRemoval := by
  have hread : storedExchange.request.urlPath = .ok defaultLogoutPath :=
    Stage.urlPath_sampleExchange
  refine ⟨?_, ?_⟩
  · have hbuilt : ∃ s, (initial.perform sampleStored).build.result = .ok (StageFilter.stage s) :=
      ⟨_, rfl⟩
    obtain ⟨s, hs⟩ := hbuilt
    have hprocess : ∃ response e', Run.exec
        ((StageFilter.stage s).process (some Stage.samplePrincipal)) storedExchange =
          (.ok (some response), e') := by
      cases hs
      exact ⟨_, _, Stage.exec_process_eq_some_iff.mpr ⟨_, rfl,
        (Stage.exec_signOut_eq_ok_iff hread).mpr ⟨_, _, rfl, rfl, rfl, rfl⟩⟩⟩
    obtain ⟨response, e', hanswer⟩ := hprocess
    have hremoves := removesStored_of_build.1 (LeftBy.script .fresh sampleStored) hs rfl
      (by
        intro handler hmem session authentication ha
        rw [List.mem_singleton.mp hmem] at ha
        cases List.mem_singleton.mp ha)
      letRemove_sampleStored
    obtain ⟨hrecord, hindex⟩ := hremoves _ _ _ _ hanswer (.string "s1") rfl rfl
    exact ⟨.stage s, response, e', hs, hanswer, hrecord, hindex (.string "u1") rfl⟩
  · have hbuilt : ∃ s, ((ofSettings .standard true).assembly.perform sampleAnswering).build.result =
        .ok (StageFilter.stage s) := ⟨_, rfl⟩
    obtain ⟨s, hs⟩ := hbuilt
    exact ⟨.stage s, hs, removesStored_of_build.2 rfl hs letRemove_sampleAnswering⟩

end Assembly

end SignOut
