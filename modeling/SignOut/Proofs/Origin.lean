import SignOut.Proofs.Clearing
import SignOut.Proofs.Parts

/-!
# Where the parts of a stage come from

A built stage contains nothing that its history did not bring in.  Every handler of the chain was
added by a call on the options, or it stands for the token repository, the remember-me services,
the two switches or the publisher that calls on the assembly gave.  Every success handler was given
by a call, or it is the redirect or the negotiated answer that a history without one falls back on.
So a statement about all parts of a stage is one about the values that calls hand over.
-/

namespace SignOut

/-- A value that was given last was given by one of the calls. -/
theorem exists_mem_of_lastGiven {α β : Type} {value? : α → Option β} {calls : List α} {value : β}
    (h : lastGiven value? calls = some value) : ∃ call ∈ calls, value? call = some value :=
  List.mem_filterMap.mp (List.mem_of_getLast? h)

/-- The calls of a customization that take effect are accepted. -/
theorem Options.isAccepted_of_mem_accepted {steps : List Step} {call : Call}
    (h : call ∈ accepted steps) : call.isAccepted = true := by
  induction steps with
  | nil => cases h
  | cons step rest ih =>
      cases step with
      | error obstacle => cases h
      | ok first =>
          unfold accepted at h
          split at h
          · rename_i hfirst
            rcases List.mem_cons.mp h with rfl | hrest
            · exact hfirst
            · exact ih hrest
          · cases h

namespace Assembly

variable {calls : List Call} {c : Configuration} {filter : StageFilter}

/-- A filter that was built has the stage of the configuration of its history. -/
theorem exists_configuration_of_build (h : (initial.applyAll calls).build.result = .ok filter) :
    ∃ c, (initial.applyAll calls).buildConfiguration = .ok c ∧
      Stage.ofConfiguration c = .ok filter.bare ∧ filter.bare.configuration = c := by
  obtain ⟨c, hc, hs⟩ := exists_bare_of_build h
  exact ⟨c, hc, hs, by rw [Stage.eq_of_ofConfiguration hs]⟩

/-- An answer of a filter that was built ends a course of its stage. -/
theorem completes_of_build (h : (initial.applyAll calls).build.result = .ok filter)
    {principal : Option Principal} {e e' : Exchange} {response : Response}
    (hprocess : Run.exec (filter.process principal) e = (.ok (some response), e')) :
    ∃ c course path records, (initial.applyAll calls).buildConfiguration = .ok c ∧
      Configuration.Course.Completes course c principal (filter.entered e) path ∧
      e' = { course.answered with records } := by
  obtain ⟨c, hc, hs, -⟩ := exists_configuration_of_build h
  rw [StageFilter.exec_process] at hprocess
  obtain ⟨course, path, hcourse, -, hended⟩ := Stage.completes_of_exec_process hs hprocess
  exact ⟨c, course, path, _, hc, hcourse, hended⟩

/-- The calls on the options that take effect along a history are accepted. -/
theorem isAccepted_of_mem_optionCalls {call : Options.Call} (h : call ∈ optionCalls calls) :
    call.isAccepted = true := by
  obtain ⟨made, -, hmade⟩ := List.mem_flatMap.mp h
  cases made with
  | logout customization => exact Options.isAccepted_of_mem_accepted hmade
  | _ => cases hmade

/-- A built filter that meets a part that stops does so as well. -/
theorem exec_process_of_meets (h : (initial.applyAll calls).build.result = .ok filter)
    {principal : Option Principal} {e e₁ e' : Exchange} {part : Part} {fault : Fault}
    (hmeets : filter.Meets principal e part e₁)
    (hstop : Run.exec (part.run principal) e₁ = (.error fault, e')) :
    Run.exec (filter.process principal) e = (.error fault, e') := by
  obtain ⟨c, -, hs, rfl⟩ := exists_configuration_of_build h
  rw [StageFilter.exec_process]
  exact (Stage.exec_process_eq_error_iff_meets hs).mpr (Or.inl ⟨part, e₁, hmeets, hstop⟩)

/-! ## Handlers -/

/-- A handler stands in the chain of a history without having been added: it discards the token of
the repository while protection is on, it is one of the remember-me services that has the operation
of a handler, it clears the session and the user by the two switches, or it publishes the event. -/
inductive Appended (calls : List Call) : Handler → Prop
  | token {repository : TokenRepository} (hprotects : protects calls = true)
      (h : lastGiven Call.repository? calls = some repository) :
      Appended calls (.one (.clearToken repository))
  | services {services : RememberMe} {handler : Handler}
      (h : lastGiven Call.rememberMe? calls = some services)
      (hhandler : services.handler? = some handler) (hfit : handler.unfitType? = none) :
      Appended calls handler
  | context : Appended calls (.one (.clearContext (invalidates calls) (clears calls)))
  | event {publisher : Publisher} (h : lastGiven Call.publisher? calls = some publisher) :
      Appended calls (.one (.publishEvent publisher))

/-- Services whose handler takes part in a snapshot have the operation of one. -/
theorem unfitType?_of_allHandlers {o : Options} {s : Options.Surroundings}
    {handlers : List Handler} {handler : Handler} (h : o.allHandlers s = .ok handlers)
    (hhandler : s.rememberMe.bind RememberMe.handler? = some handler) :
    handler.unfitType? = none := by
  obtain ⟨rememberMe, hrememberMe, -⟩ := Checks.bind_eq_ok_iff.mp h
  unfold Options.rememberMeHandlers at hrememberMe
  rw [hhandler] at hrememberMe
  obtain ⟨given, hgiven, -⟩ := Checks.bind_eq_ok_iff.mp hrememberMe
  exact (Handler.fit_of_requireFit hgiven).2.1

/-- The chain of a history: the handlers that were added, and behind them those for which it gave
the collaborators and the switches. -/
theorem exists_appended (h : (initial.applyAll calls).buildConfiguration = .ok c) :
    ∃ appended, c.handlers = addedHandlers calls ++ appended ∧
      ∀ handler ∈ appended, Appended calls handler := by
  obtain ⟨-, -, hhandlers, -⟩ := Options.eq_of_snapshot (snapshot_of_buildConfiguration h)
  have hchain := Options.eq_of_allHandlers hhandlers
  simp only [List.append_assoc] at hchain
  refine ⟨_, hchain, fun handler hmem => ?_⟩
  -- one case for each of the four parts behind the handlers that were added
  simp only [List.mem_append] at hmem
  rcases hmem with htoken | hservices | hcontext | hevent
  · unfold Options.tokenHandlers at htoken
    split at htoken
    · rename_i hprotects hrepository
      rw [List.mem_singleton.mp htoken]
      exact .token hprotects hrepository
    · cases htoken
  · have hhandler := Option.mem_toList.mp hservices
    obtain ⟨services, hgiven, hof⟩ := Option.bind_eq_some_iff.mp hhandler
    exact .services hgiven hof (unfitType?_of_allHandlers hhandlers hhandler)
  · rw [List.mem_singleton.mp hcontext]
    exact .context
  · unfold Options.eventHandlers at hevent
    split at hevent
    · cases hevent
    · rename_i publisher hgiven
      rw [List.mem_singleton.mp hevent]
      exact .event hgiven

/-- Behind an answer of a built filter, every single handler of those that were added completed, at
whatever depth it stands. -/
theorem completes_of_mem_addedHandlers (h : (initial.applyAll calls).build.result = .ok filter)
    {principal : Option Principal} {e e' : Exchange} {response : Response}
    (hprocess : Run.exec (filter.process principal) e = (.ok (some response), e'))
    {handler : Handler} (hmem : handler ∈ addedHandlers calls) {action : Handler.Action}
    (haction : action ∈ handler.actions) :
    ∃ e₁ e₂, Run.exec (action.perform principal) e₁ = (.ok (), e₂) := by
  obtain ⟨c, course, path, records, hc, hcourse, -⟩ := completes_of_build h hprocess
  obtain ⟨appended, hhandlers, -⟩ := exists_appended hc
  have hchain : handler ∈ c.handlers := by
    rw [hhandlers]
    exact List.mem_append_left _ hmem
  exact hcourse.exists_of_mem_actions hchain haction

/-- A request that a history selects meets the first single handler that it added, and nothing has
happened to the request by then. -/
theorem meets_of_selects (h : (initial.applyAll calls).build.result = .ok filter)
    (hnone : givenMatcher calls = none) {e : Exchange} (hselects : Selects calls e.request)
    {action : Handler.Action} {after : List Handler.Action}
    (hfirst : Chain.actionsAll (addedHandlers calls) = action :: after)
    (principal : Option Principal) :
    filter.Meets principal e (.handler action) (filter.entered e).opened := by
  obtain ⟨c, hc, -, hbare⟩ := exists_configuration_of_build h
  obtain ⟨appended, hhandlers, -⟩ := exists_appended hc
  have hactions : Chain.actionsAll filter.bare.configuration.handlers =
      [] ++ action :: (after ++ Chain.actionsAll appended) := by
    rw [hbare, hhandlers, Chain.actionsAll_append, hfirst]
    rfl
  exact .handler (recognises_of_selects h hnone hselects) hactions (.nil _)

/-! ## Success handlers -/

/-- The routes that a history adds. -/
def addedRoutes (calls : List Call) : List (Matcher × Success) :=
  (optionCalls calls).filterMap Options.Call.route?

/-- A success handler can be selected behind the chain of a history. -/
inductive Answering (calls : List Call) : Success → Prop
  | route {matcher : Matcher} {success : Success} (h : (matcher, success) ∈ addedRoutes calls) :
      Answering calls success
  | given {success : Success}
      (h : lastGiven Options.Call.fallback? (optionCalls calls) = some success) :
      Answering calls success
  | redirect {url : String}
      (h : lastGiven Options.Call.successUrl? (optionCalls calls) = some url) :
      Answering calls (.answer (.redirect url))
  | negotiated : Answering calls
      (.answer (.negotiating ((lastGiven Call.loginPath? calls).getD defaultLoginPath)))

theorem routes_of_buildConfiguration (h : (initial.applyAll calls).buildConfiguration = .ok c) :
    c.routes = addedRoutes calls := by
  obtain ⟨-, -, -, hroutes, -⟩ := Options.eq_of_snapshot (snapshot_of_buildConfiguration h)
  exact hroutes

/-- The default success handler of a history is the last one that was given, or else the redirect to
the last URL that was given, or else the negotiated answer for the last login path. -/
theorem fallback_of_buildConfiguration (h : (initial.applyAll calls).buildConfiguration = .ok c) :
    c.fallback =
      ((lastGiven Options.Call.fallback? (optionCalls calls)).or
        ((lastGiven Options.Call.successUrl? (optionCalls calls)).map fun url =>
          .answer (.redirect url))).getD
      (.answer (.negotiating ((lastGiven Call.loginPath? calls).getD defaultLoginPath))) := by
  obtain ⟨-, -, -, -, hfallback⟩ := Options.eq_of_snapshot (snapshot_of_buildConfiguration h)
  unfold Options.defaultSuccess at hfallback
  split at hfallback
  · rename_i url handler hgiven
    have hgiven : lastGiven Options.Call.fallback? (optionCalls calls) = some handler := hgiven
    rw [hgiven, ← Except.ok.inj hfallback]
    rfl
  · rename_i url hnone hurl
    have hnone : lastGiven Options.Call.fallback? (optionCalls calls) = none := hnone
    have hurl : lastGiven Options.Call.successUrl? (optionCalls calls) = some url := hurl
    rw [hnone, hurl, ← Except.ok.inj hfallback]
    rfl
  · rename_i hnone hurl
    have hnone : lastGiven Options.Call.fallback? (optionCalls calls) = none := hnone
    have hurl : lastGiven Options.Call.successUrl? (optionCalls calls) = none := hurl
    rw [hnone, hurl, ← Except.ok.inj hfallback]
    rfl

/-- The default success handler of a configuration was brought in by its history. -/
theorem answering_fallback (h : (initial.applyAll calls).buildConfiguration = .ok c) :
    Answering calls c.fallback := by
  rw [fallback_of_buildConfiguration h]
  cases hgiven : lastGiven Options.Call.fallback? (optionCalls calls) with
  | some handler => exact .given hgiven
  | none =>
      cases hurl : lastGiven Options.Call.successUrl? (optionCalls calls) with
      | some url => exact .redirect hurl
      | none => exact .negotiated

/-- Every success handler of a configuration was brought in by its history. -/
theorem answering_of_buildConfiguration
    (h : (initial.applyAll calls).buildConfiguration = .ok c) {success : Success}
    (hmem : success = c.fallback ∨ ∃ matcher, (matcher, success) ∈ c.routes) :
    Answering calls success := by
  rcases hmem with rfl | ⟨matcher, hmem⟩
  · exact answering_fallback h
  · rw [routes_of_buildConfiguration h] at hmem
    exact .route hmem

end Assembly

end SignOut
