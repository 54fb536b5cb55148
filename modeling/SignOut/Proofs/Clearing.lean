import SignOut.Proofs.History
import SignOut.Proofs.Processing

/-!
# What a sign-out clears

The two switches of an assembly decide what a completed sign-out does to the session and to
whoever is signed in.  The handler that obeys them runs behind everything that can be added, and
what runs behind it does not write to the request; so where a switch is on, the part that it
governs is cleared in the end, whatever was done to it before.  Where a switch is off, the part
stays exactly as it was, unless an added handler clears it of its own accord.  Both hold for
collaborators of the application as long as these leave the session and the user alone.
-/

namespace SignOut

/-! ## The clearing of a request -/

namespace Handler

variable (session authentication : Bool) (r : Request)

@[simp] theorem session_clearedRequest :
    (clearedRequest session authentication r).session =
      if session then r.session.map fun _ => [] else r.session := by
  cases session <;> cases authentication <;> rfl

@[simp] theorem user_clearedRequest :
    (clearedRequest session authentication r).user =
      if authentication then r.user.map fun _ => some .anonymous else r.user := by
  cases session <;> cases authentication <;> rfl

@[simp] theorem userContext_clearedRequest :
    (clearedRequest session authentication r).userContext =
      if authentication then some none else r.userContext := by
  cases session <;> cases authentication <;> rfl

/-- Nobody is signed in to a request whose user was cleared. -/
theorem principal?_clearedRequest : (clearedRequest session true r).principal? = none := by
  unfold Request.principal?
  rw [userContext_clearedRequest, user_clearedRequest]
  cases r.user with
  | none => rfl
  | some user => rfl

end Handler

/-! ## Collaborators that spare the session and the user -/

/-- A collaborator leaves the session and the user as they were, whatever else it does. -/
def Collaborator.SparesContext (c : Collaborator) : Prop :=
  ∀ principal e, (c.act principal e).session = e.request.session ∧
    (c.act principal e).user = e.request.user ∧
    (c.act principal e).userContext = e.request.userContext

theorem Collaborator.SparesContext.request_applyTo {c : Collaborator} (h : c.SparesContext)
    (principal : Option Principal) (e : Exchange) :
    ((c.act principal e).applyTo e).request = e.request := by
  obtain ⟨hsession, huser, hcontext⟩ := h principal e
  unfold Deed.applyTo
  simp only [hsession, huser, hcontext]

namespace Frame

variable {γ : Type} (part : Request → γ)

/-- A collaborator that spares the session and the user spares every part of the request. -/
theorem keeping_admitsDeeds {c : Collaborator} (h : c.SparesContext) :
    (keeping part).AdmitsDeeds c :=
  fun principal e => congrArg part (h.request_applyTo principal e)

/-- A single handler keeps a part of the request if it is no collaborator that writes to the
session or the user, and no clearing that changes the part. -/
theorem keeping_admits {a : Handler.Action}
    (hcustom : ∀ collaborator, a = .custom collaborator → collaborator.SparesContext)
    (hclear : ∀ session authentication, a = .clearContext session authentication →
      ∀ r, part (Handler.clearedRequest session.isOn authentication.isOn r) = part r) :
    (keeping part).Admits a := by
  refine admits_of_deeds ?_ ?_
  · intro session authentication h e
    exact hclear session authentication h e.request
  · intro collaborator h
    exact keeping_admitsDeeds part (hcustom collaborator h)

/-- A single success handler keeps the request if it is no collaborator that writes to the session
or the user. -/
theorem keeping_admitsAnswer {a : Success.Answer}
    (hcustom : ∀ collaborator, a = .custom collaborator → collaborator.SparesContext) :
    (keeping part).AdmitsAnswer a :=
  admitsAnswer_of_deeds fun collaborator h => keeping_admitsDeeds part (hcustom collaborator h)

end Frame

/-! ## The request at the end of a course -/

/-- All success handlers that a configuration can select keep a part of the request. -/
def Configuration.AnswersKeep {γ : Type} (c : Configuration) (part : Request → γ) : Prop :=
  ∀ success, success = c.fallback ∨ (∃ matcher, (matcher, success) ∈ c.routes) →
    ∀ a ∈ success.answers, (Frame.keeping part).AdmitsAnswer a

namespace Configuration.Course.Completes

variable {course : Course} {c : Configuration} {principal : Option Principal} {e : Exchange}
  {path : String} {γ : Type} {part : Request → γ}

/-- Behind the handlers, success handlers that keep a part of the request leave it to the end. -/
theorem part_answered_eq (h : course.Completes c principal e path) (hanswers : c.AnswersKeep part) :
    part course.answered.request = part course.cleared.request := by
  have hrouted : part course.routed.request = part course.cleared.request :=
    h.chosen.rel (F := Frame.keeping part)
  have hchosen := hanswers course.chosen h.chosen.eq_fallback_or_mem
  have hgiven : part course.answered.request = part course.routed.request :=
    (Frame.holds_give hchosen principal).rel h.answered
  rw [hgiven, hrouted]

/-- The request with which the first handler starts is the one that the exchange came with. -/
theorem request_matched_eq (h : course.Completes c principal e path) :
    course.matched.request = e.request := by
  rw [h.matched_eq]

/-- A part of the request that all handlers and success handlers keep is as it was in the end. -/
theorem part_eq (h : course.Completes c principal e path)
    (hhandlers : ∀ handler ∈ c.handlers, ∀ a ∈ handler.actions, (Frame.keeping part).Admits a)
    (hanswers : c.AnswersKeep part) : part course.answered.request = part e.request := by
  have hhandled : part course.cleared.request = part course.matched.request :=
    h.handled.rel (F := Frame.keeping part) fun handler hmem =>
      Frame.holds_perform (hhandlers handler hmem) principal
  rw [h.part_answered_eq hanswers, hhandled, h.request_matched_eq]

/-- A clearing behind which nothing writes to the request has the last word: the request ends up
as some request that was cleared by its switches. -/
theorem exists_clearedRequest (h : course.Completes c principal e path)
    {before after : List Handler} {session authentication : Switch}
    (hchain : c.handlers = before ++ .one (.clearContext session authentication) :: after)
    (hafter : ∀ handler ∈ after, ∀ a ∈ handler.actions, (Frame.keeping id).Admits a)
    (hanswers : c.AnswersKeep id) :
    ∃ r, course.answered.request =
      Handler.clearedRequest session.isOn authentication.isOn r := by
  have hhandled := h.handled
  rw [hchain] at hhandled
  obtain ⟨_, e₂, _, _, hrest⟩ := hhandled.exists_of_append
  cases hrest with
  | @cons _ _ _ e₃ _ _ _ hclear hcalls hlater =>
      have hcleared : e₃.request =
          Handler.clearedRequest session.isOn authentication.isOn e₂.request := by
        cases hclear
        rfl
      have hkept : course.cleared.request = e₃.request :=
        hlater.rel (F := Frame.keeping id) fun handler hmem =>
          Frame.holds_perform (hafter handler hmem) principal
      refine ⟨e₂.request, ?_⟩
      exact (h.part_answered_eq hanswers).trans (hkept.trans hcleared)

end Configuration.Course.Completes

/-! ## Histories of calls -/

namespace Assembly

/-- Whether the session is to be invalidated, by the last call that says so. -/
def invalidates (calls : List Call) : Switch :=
  (lastGiven Options.Call.invalidateSession? (optionCalls calls)).getD .on

/-- Whether the user is to be cleared, by the last call that says so. -/
def clears (calls : List Call) : Switch :=
  (lastGiven Options.Call.clearAuthentication? (optionCalls calls)).getD .on

/-- The handlers that a history adds. -/
def addedHandlers (calls : List Call) : List Handler :=
  (optionCalls calls).filterMap Options.Call.handler?

/-- The collaborators of the application that a history brings in leave the session and the user
alone: its handlers and success handlers at any depth, and its remember-me services. -/
structure SpareContext (calls : List Call) : Prop where
  handlers : ∀ handler ∈ addedHandlers calls, ∀ collaborator,
    .custom collaborator ∈ handler.actions → collaborator.SparesContext
  services : ∀ collaborator, lastGiven Call.rememberMe? calls = some (.custom collaborator) →
    collaborator.SparesContext
  routes : ∀ route ∈ (optionCalls calls).filterMap Options.Call.route?, ∀ collaborator,
    .custom collaborator ∈ route.2.answers → collaborator.SparesContext
  fallback : ∀ success, lastGiven Options.Call.fallback? (optionCalls calls) = some success →
    ∀ collaborator, .custom collaborator ∈ success.answers → collaborator.SparesContext

variable {calls : List Call} {c : Configuration} {γ : Type} (part : Request → γ)

/-- The success handlers of a history write to nothing of the request. -/
theorem answersKeep_of_spareContext (hspare : SpareContext calls)
    (h : (initial.applyAll calls).buildConfiguration = .ok c) : c.AnswersKeep part := by
  obtain ⟨-, -, -, hroutes, hfallback⟩ :=
    Options.eq_of_snapshot (snapshot_of_buildConfiguration h)
  rintro success (rfl | ⟨matcher, hmem⟩)
  · rcases Options.eq_of_defaultSuccess hfallback with hgiven | ⟨url, hurl⟩ | ⟨login, hlogin⟩
    · exact fun a ha => Frame.keeping_admitsAnswer part fun collaborator heq =>
        hspare.fallback _ hgiven collaborator (heq ▸ ha)
    · rw [hurl]
      exact fun a ha => Frame.admitsAnswer_of_mem_answer ha trivial
    · rw [hlogin]
      exact fun a ha => Frame.admitsAnswer_of_mem_answer ha trivial
  · rw [hroutes] at hmem
    exact fun a ha => Frame.keeping_admitsAnswer part fun collaborator heq =>
      hspare.routes _ hmem collaborator (heq ▸ ha)

/-- The handlers of a history keep a part of the request that neither its switches nor the clearings
among the added handlers change. -/
theorem admits_of_spareContext (hspare : SpareContext calls)
    (h : (initial.applyAll calls).buildConfiguration = .ok c)
    (hadded : ∀ handler ∈ addedHandlers calls, ∀ session authentication,
      .clearContext session authentication ∈ handler.actions →
      ∀ r, part (Handler.clearedRequest session.isOn authentication.isOn r) = part r)
    (hswitches : ∀ r,
      part (Handler.clearedRequest (invalidates calls).isOn (clears calls).isOn r) = part r) :
    ∀ handler ∈ c.handlers, ∀ a ∈ handler.actions, (Frame.keeping part).Admits a := by
  obtain ⟨-, -, hhandlers, -⟩ := Options.eq_of_snapshot (snapshot_of_buildConfiguration h)
  rw [Options.eq_of_allHandlers hhandlers]
  intro handler hmem a ha
  -- one case for each of the five parts of the chain
  simp only [List.mem_append] at hmem
  rcases hmem with (((huser | htoken) | hservices) | hcontext) | hevent
  · refine Frame.keeping_admits part ?_ ?_
    · rintro collaborator rfl
      exact hspare.handlers handler huser collaborator ha
    · rintro session authentication rfl
      exact hadded handler huser session authentication ha
  · obtain ⟨repository, rfl⟩ := Options.eq_of_mem_tokenHandlers htoken
    exact Frame.admits_of_mem_one ha trivial
  · rw [Option.mem_toList] at hservices
    obtain ⟨services, hgiven, hhandler⟩ := Option.bind_eq_some_iff.mp hservices
    cases services with
    | custom collaborator =>
        cases hhandler
        have hspares := hspare.services collaborator hgiven
        exact Frame.admits_of_mem_one ha (Frame.keeping_admitsDeeds part hspares)
    | withLogout =>
        cases hhandler
        exact Frame.admits_of_mem_one ha trivial
    | unawaited =>
        cases hhandler
        exact Frame.admits_of_mem_one ha trivial
    | only => cases hhandler
    | object => cases hhandler
    | withdrawn => cases hhandler
  · rw [List.mem_singleton.mp hcontext] at ha
    exact Frame.admits_of_mem_one ha fun e => hswitches e.request
  · obtain ⟨publisher, rfl⟩ := Options.eq_of_mem_eventHandlers hevent
    exact Frame.admits_of_mem_one ha trivial

/-- An answer of a filter that was built ends a course of its stage. -/
theorem exists_completes_of_build {filter : StageFilter} {principal : Option Principal}
    {e e' : Exchange} {response : Response}
    (hbuilt : (initial.applyAll calls).build.result = .ok filter)
    (hprocess : Run.exec (filter.process principal) e = (.ok (some response), e')) :
    ∃ c course path, ∃ e₁ : Exchange, (initial.applyAll calls).buildConfiguration = .ok c ∧
      e₁.request = e.request ∧ Configuration.Course.Completes course c principal e₁ path ∧
      e'.request = course.answered.request := by
  obtain ⟨c, hc, hs⟩ := exists_bare_of_build hbuilt
  have hstage : ∃ e₁ : Exchange, e₁.request = e.request ∧
      Run.exec (filter.bare.process principal) e₁ = (.ok (some response), e') := by
    cases filter with
    | stage s => exact ⟨e, rfl, hprocess⟩
    | decorated s =>
        exact ⟨{ e with calls := e.calls ++ [.decoratedProcess] }, rfl, hprocess⟩
  obtain ⟨e₁, hrequest, hanswer⟩ := hstage
  obtain ⟨course, path, hcourse, -, hended⟩ := Stage.completes_of_exec_process hs hanswer
  refine ⟨c, course, path, e₁, hc, hrequest, hcourse, ?_⟩
  rw [hended]

/-- The chain of a history has its clearing behind everything that writes to the request. -/
theorem exists_chain (h : (initial.applyAll calls).buildConfiguration = .ok c) :
    ∃ before after, c.handlers =
        before ++ .one (.clearContext (invalidates calls) (clears calls)) :: after ∧
      ∀ handler ∈ after, ∀ a ∈ handler.actions, (Frame.keeping part).Admits a := by
  obtain ⟨-, -, hhandlers, -⟩ := Options.eq_of_snapshot (snapshot_of_buildConfiguration h)
  have hchain := Options.eq_of_allHandlers hhandlers
  rw [List.append_assoc _ [_]] at hchain
  refine ⟨_, _, hchain, ?_⟩
  intro handler hmem a ha
  obtain ⟨publisher, rfl⟩ := Options.eq_of_mem_eventHandlers hmem
  exact Frame.admits_of_mem_one ha trivial

/-- What a completed sign-out leaves of the session and the user, whatever calls the filter was
built from.  If the last word was to invalidate the session, it is absent or empty; if the last
word was to clear the user, the user context is empty, the user absent or anonymous, and nobody is
signed in any more.  If the last word was to leave one of them, it is exactly as it was, unless one
of the added handlers, at any depth, clears it. -/
theorem context_of_process {filter : StageFilter} {principal : Option Principal} {e e' : Exchange}
    {response : Response} (hbuilt : (initial.applyAll calls).build.result = .ok filter)
    (hspare : SpareContext calls)
    (hprocess : Run.exec (filter.process principal) e = (.ok (some response), e')) :
    ((invalidates calls).isOn = true → e'.request.session = none ∨ e'.request.session = some []) ∧
    ((clears calls).isOn = true →
      e'.request.userContext = some none ∧
      (e'.request.user = none ∨ e'.request.user = some (some .anonymous)) ∧
      e'.request.principal? = none) ∧
    ((invalidates calls).isOn = false →
      (∀ handler ∈ addedHandlers calls, ∀ session authentication,
        .clearContext session authentication ∈ handler.actions → session.isOn = false) →
      e'.request.session = e.request.session) ∧
    ((clears calls).isOn = false →
      (∀ handler ∈ addedHandlers calls, ∀ session authentication,
        .clearContext session authentication ∈ handler.actions → authentication.isOn = false) →
      e'.request.user = e.request.user ∧ e'.request.userContext = e.request.userContext) := by
  obtain ⟨c, course, path, e₁, hc, hrequest, hcourse, hended⟩ :=
    exists_completes_of_build hbuilt hprocess
  -- where a switch is on, its clearing has the last word on the request
  obtain ⟨before, after, hchain, hafter⟩ := exists_chain id hc
  obtain ⟨r, hcleared⟩ :=
    hcourse.exists_clearedRequest hchain hafter (answersKeep_of_spareContext id hspare hc)
  rw [hended]
  refine ⟨?_, ?_, ?_, ?_⟩
  · intro hon
    rw [hcleared, Handler.session_clearedRequest, if_pos hon]
    cases r.session with
    | none => exact Or.inl rfl
    | some entries => exact Or.inr rfl
  · intro hon
    rw [hcleared, hon]
    refine ⟨?_, ?_, Handler.principal?_clearedRequest _ r⟩
    · rw [Handler.userContext_clearedRequest, if_pos rfl]
    · rw [Handler.user_clearedRequest, if_pos rfl]
      cases r.user with
      | none => exact Or.inl rfl
      | some user => exact Or.inr rfl
  -- where a switch is off, every single handler keeps the part that it governs
  · intro hoff hadded
    have hkept := hcourse.part_eq
      (admits_of_spareContext Request.session hspare hc
        (fun handler hmem session authentication ha r => by
          simp [hadded handler hmem session authentication ha])
        (fun r => by simp [hoff]))
      (answersKeep_of_spareContext Request.session hspare hc)
    rw [hkept, hrequest]
  · intro hoff hadded
    have hkept := hcourse.part_eq
      (admits_of_spareContext (fun r => (r.user, r.userContext)) hspare hc
        (fun handler hmem session authentication ha r => by
          simp [hadded handler hmem session authentication ha])
        (fun r => by simp [hoff]))
      (answersKeep_of_spareContext (fun r => (r.user, r.userContext)) hspare hc)
    rw [← hrequest]
    exact Prod.mk.inj hkept

/-- A collaborator that records that it was called and leaves everything else alone. -/
def sampleAudit : Collaborator where
  typeName := "Audit"
  act principal e :=
    { session := e.request.session, user := e.request.user, userContext := e.request.userContext
      response := e.response, store := e.store, calls := [.loggedOut "audit" principal]
      outcome := .ok () }

/-- A history in which the session is invalidated after all and the user is left signed in. -/
def sampleClearing : List Call :=
  [.logout [.ok (.setRequestMatcher (.atom .everything)), .ok (.invalidateSession .off),
      .ok (.addHandler (.many [.one (.custom sampleAudit)]))],
    .logout [.ok (.invalidateSession .on), .ok (.clearAuthentication .off),
      .ok (.setDefaultSuccessHandler (.answer (.recording "farewell" (some 200))))]]

theorem spareContext_sampleClearing : SpareContext sampleClearing where
  handlers := by
    intro handler hmem collaborator ha
    rw [List.mem_singleton.mp hmem] at ha
    cases List.mem_singleton.mp ha
    exact fun _ _ => ⟨rfl, rfl, rfl⟩
  services := by
    intro collaborator h
    cases h
  routes := by
    intro route hmem
    cases hmem
  fallback := by
    intro success h collaborator ha
    cases h
    cases List.mem_singleton.mp ha

theorem context_of_process_sample :
    ∃ filter response e', (initial.applyAll sampleClearing).build.result = .ok filter ∧
      Run.exec (filter.process (some Stage.samplePrincipal)) Stage.sampleExchange =
        (.ok (some response), e') ∧
      (e'.request.session = none ∨ e'.request.session = some []) ∧
      e'.request.userContext = Stage.sampleExchange.request.userContext := by
  have hbuilt : ∃ s, (initial.applyAll sampleClearing).build.result =
      .ok (StageFilter.stage s) := ⟨_, rfl⟩
  obtain ⟨s, hs⟩ := hbuilt
  have hprocess : ∃ response e', Run.exec
      ((StageFilter.stage s).process (some Stage.samplePrincipal)) Stage.sampleExchange =
        (.ok (some response), e') := by
    cases hs
    exact ⟨_, _, Stage.exec_process_eq_some_iff.mpr ⟨_, rfl,
      (Stage.exec_signOut_eq_ok_iff Stage.urlPath_sampleExchange).mpr
        ⟨_, _, rfl, rfl, rfl, rfl⟩⟩⟩
  obtain ⟨response, e', hanswer⟩ := hprocess
  have hcontext := context_of_process hs spareContext_sampleClearing hanswer
  refine ⟨.stage s, response, e', hs, hanswer, hcontext.1 rfl, ?_⟩
  refine (hcontext.2.2.2 rfl ?_).2
  intro handler hmem session authentication ha
  rw [List.mem_singleton.mp hmem] at ha
  cases List.mem_singleton.mp ha

end Assembly

end SignOut
