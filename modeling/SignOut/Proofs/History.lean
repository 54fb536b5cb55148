import SignOut.Assembly
import SignOut.Proofs.Checks

/-!
# What a history of calls leaves

An assembly is the result of the calls that were made on it.  Whether a call on the options is
accepted does not depend on the calls before it, so a history determines which calls took effect:
those of every customization up to the first that is refused or cannot be built.  The path is the
first one among these, every other setting is the last one, and handlers and routes are all of
them in order.  The closed form of an assembly says this field by field; one call extends it by
one call, and from that every history reaches exactly its closed form.
-/

namespace SignOut

/-- The first value that calls give. -/
def firstGiven {α β : Type} (value? : α → Option β) (calls : List α) : Option β :=
  (calls.filterMap value?).head?

/-- The last value that calls give. -/
def lastGiven {α β : Type} (value? : α → Option β) (calls : List α) : Option β :=
  (calls.filterMap value?).getLast?

section Given

variable {α β : Type} (value? : α → Option β)

/-- A value that was given first stays; otherwise the next call may give one. -/
theorem firstGiven_concat (calls : List α) (call : α) :
    firstGiven value? (calls ++ [call]) = (firstGiven value? calls).or (value? call) := by
  unfold firstGiven
  rw [List.filterMap_append, List.head?_append]
  cases h : value? call with
  | none => simp [h]
  | some value => simp [h]

/-- The value of the next call stands if it gives one; otherwise the one before stays. -/
theorem lastGiven_concat (calls : List α) (call : α) :
    lastGiven value? (calls ++ [call]) = (value? call).or (lastGiven value? calls) := by
  unfold lastGiven
  rw [List.filterMap_append, List.getLast?_append]
  cases h : value? call with
  | none => simp [h]
  | some value => simp [h]

end Given

namespace Options

/-! ## What calls on the options give -/

namespace Call

/-- The path that a call gives. -/
@[simp] def path? : Call → Option String
  | .setPath path => path
  | _ => none

/-- The matcher that a call gives. -/
@[simp] def matcher? : Call → Option Matcher
  | .setRequestMatcher matcher => some matcher
  | _ => none

/-- The handler that a call adds: the one it was given, or the one that it makes of cookie names or
of the place of a stored session. -/
@[simp] def handler? : Call → Option Handler
  | .addHandler handler => some handler
  | .deleteCookies names => some (.one (.expireCookies (names.filterMap id) (some "/") none))
  | .addSessionStore removal => removal.map fun removal => .one (.removeSession removal)
  | _ => none

/-- The route that a call adds. -/
@[simp] def route? : Call → Option (Matcher × Success)
  | .addSuccessRoute handler matcher => some (matcher, handler)
  | _ => none

/-- The default success handler that a call gives. -/
@[simp] def fallback? : Call → Option Success
  | .setDefaultSuccessHandler handler => some handler
  | _ => none

/-- The URL that a call gives. -/
@[simp] def successUrl? : Call → Option String
  | .setSuccessUrl url => url
  | _ => none

/-- Whether a call wants the session invalidated. -/
@[simp] def invalidateSession? : Call → Option Switch
  | .invalidateSession enabled => some enabled
  | _ => none

/-- Whether a call wants the user cleared. -/
@[simp] def clearAuthentication? : Call → Option Switch
  | .clearAuthentication enabled => some enabled
  | _ => none

/-- A call is accepted.  The options collected so far have no say in it, so it is enough to ask the
initial ones. -/
def isAccepted (call : Call) : Bool :=
  (Options.initial.apply call).isOk

end Call

/-- The calls of a customization that take effect: all up to the first that is refused or cannot
be built. -/
def accepted : List Step → List Call
  | [] => []
  | .error _ :: _ => []
  | .ok call :: rest => if call.isAccepted then call :: accepted rest else []

/-- The options after accepted calls. -/
def ofCalls (calls : List Call) : Options :=
  { path := firstGiven Call.path? calls
    matcher := lastGiven Call.matcher? calls
    handlers := calls.filterMap Call.handler?
    routes := calls.filterMap Call.route?
    fallback := lastGiven Call.fallback? calls
    successUrl := lastGiven Call.successUrl? calls
    invalidateSession := (lastGiven Call.invalidateSession? calls).getD .on
    clearAuthentication := (lastGiven Call.clearAuthentication? calls).getD .on }

/-- The options with what one accepted call gives. -/
def extend (c : Options) (call : Call) : Options :=
  { path := c.path.or call.path?
    matcher := call.matcher?.or c.matcher
    handlers := c.handlers ++ call.handler?.toList
    routes := c.routes ++ call.route?.toList
    fallback := call.fallback?.or c.fallback
    successUrl := call.successUrl?.or c.successUrl
    invalidateSession := call.invalidateSession?.getD c.invalidateSession
    clearAuthentication := call.clearAuthentication?.getD c.clearAuthentication }

/-! ## One call on the options -/

variable {c next : Options} {call : Call}

theorem eq_of_requirePath {path : Option String} {given : String}
    (h : requirePath path = .ok given) : path = some given := by
  obtain ⟨text, htext, h⟩ := Checks.bind_eq_ok_iff.mp h
  rw [InvalidArgument.eq_some_of_require htext]
  split at h
  · cases h
    rfl
  · cases h

/-- A matcher that is accepted is given and has the operation of one. -/
theorem fit_of_requireMatcher {matcher checked : Matcher}
    (h : requireMatcher matcher = .ok checked) :
    matcher.isNothing = false ∧ matcher.foreignType? = none ∧ checked = matcher := by
  obtain ⟨given, hgiven, hfit⟩ := Checks.bind_eq_ok_iff.mp h
  obtain ⟨hthere, rfl⟩ := Matcher.require_eq_ok_iff.mp hgiven
  split at hfit
  · rename_i hnone
    exact ⟨hthere, hnone, (Except.ok.inj hfit).symm⟩
  · cases hfit

theorem eq_of_addHandler {handler : Handler} (h : c.addHandler handler = .ok next) :
    next = { c with handlers := c.handlers ++ [handler] } := by
  obtain ⟨given, hgiven, h⟩ := Checks.bind_eq_ok_iff.mp h
  cases h
  rw [(Handler.fit_of_requireFit hgiven).2.2]

/-- Whether a call is accepted depends on the call alone. -/
theorem isOk_apply (c : Options) (call : Call) : (c.apply call).isOk = call.isAccepted := by
  -- every call checks its arguments first and only then touches the options
  have hchecked : ∀ {α : Type} (check : Except InvalidArgument α) (f g : α → Options),
      (check >>= fun a => pure (f a)).isOk = (check >>= fun a => pure (g a)).isOk := by
    intro α check f g
    cases check with
    | error e => rfl
    | ok a => rfl
  have hadded : ∀ handler, (c.addHandler handler).isOk = (initial.addHandler handler).isOk :=
    fun handler => hchecked _ _ _
  unfold Call.isAccepted
  cases call with
  | setPath path => exact hchecked (requirePath path) _ _
  | setRequestMatcher matcher => exact hchecked (requireMatcher matcher) _ _
  | addHandler handler => exact hadded handler
  | deleteCookies names =>
      show (Handler.ofCookies names (some "/") none >>= c.addHandler).isOk =
        (Handler.ofCookies names (some "/") none >>= initial.addHandler).isOk
      cases Handler.ofCookies names (some "/") none with
      | error e => rfl
      | ok handler => exact hadded handler
  | addSessionStore removal =>
      cases removal with
      | none => rfl
      | some removal => exact hadded (.one (.removeSession removal))
  | invalidateSession enabled => rfl
  | clearAuthentication enabled => rfl
  | addSuccessRoute handler matcher =>
      show (Success.requireFit handler "handler" >>= fun handler =>
        requireMatcher matcher >>= fun matcher =>
          pure { c with routes := c.routes ++ [(matcher, handler)] }).isOk =
        (Success.requireFit handler "handler" >>= fun handler =>
          requireMatcher matcher >>= fun matcher =>
            pure { initial with routes := initial.routes ++ [(matcher, handler)] }).isOk
      cases Success.requireFit handler "handler" with
      | error e => rfl
      | ok handler => exact hchecked (requireMatcher matcher) _ _
  | setDefaultSuccessHandler handler =>
      exact hchecked (Success.requireFit handler "handler") _ _
  | setSuccessUrl url => exact hchecked (InvalidArgument.require url "url") _ _

/-- An accepted call sets what it gives and adds what it adds. -/
theorem eq_extend_of_apply (h : c.apply call = .ok next) : next = c.extend call := by
  cases call with
  | setPath path =>
      obtain ⟨given, hgiven, h⟩ := Checks.bind_eq_ok_iff.mp h
      cases h
      rw [eq_of_requirePath hgiven]
      -- the first path stays, so it matters whether there is one
      cases hpath : c.path with
      | none => simp [extend, hpath]
      | some inEffect => simp [extend, hpath]
  | setRequestMatcher matcher =>
      obtain ⟨given, hgiven, h⟩ := Checks.bind_eq_ok_iff.mp h
      cases h
      rw [(fit_of_requireMatcher hgiven).2.2]
      simp [extend]
  | addHandler handler =>
      rw [eq_of_addHandler h]
      simp [extend]
  | deleteCookies names =>
      obtain ⟨handler, hhandler, h⟩ := Checks.bind_eq_ok_iff.mp h
      unfold Handler.ofCookies at hhandler
      split at hhandler
      · cases hhandler
        rw [eq_of_addHandler h]
        simp [extend]
      · cases hhandler
  | addSessionStore removal =>
      obtain ⟨given, hgiven, h⟩ := Checks.bind_eq_ok_iff.mp h
      rw [InvalidArgument.eq_some_of_require hgiven]
      obtain ⟨handler, hhandler, h⟩ := Checks.bind_eq_ok_iff.mp h
      cases hhandler
      rw [eq_of_addHandler h]
      simp [extend]
  | invalidateSession enabled =>
      cases h
      simp [extend]
  | clearAuthentication enabled =>
      cases h
      simp [extend]
  | addSuccessRoute handler matcher =>
      obtain ⟨success, hsuccess, h⟩ := Checks.bind_eq_ok_iff.mp h
      obtain ⟨given, hgiven, h⟩ := Checks.bind_eq_ok_iff.mp h
      cases h
      rw [(Success.fit_of_requireFit hsuccess).2.2, (fit_of_requireMatcher hgiven).2.2]
      simp [extend]
  | setDefaultSuccessHandler handler =>
      obtain ⟨success, hsuccess, h⟩ := Checks.bind_eq_ok_iff.mp h
      cases h
      rw [(Success.fit_of_requireFit hsuccess).2.2]
      simp [extend]
  | setSuccessUrl url =>
      obtain ⟨given, hgiven, h⟩ := Checks.bind_eq_ok_iff.mp h
      cases h
      rw [InvalidArgument.eq_some_of_require hgiven]
      simp [extend]

/-- The closed form after one more call is the closed form with what that call gives. -/
theorem ofCalls_concat (calls : List Call) (call : Call) :
    ofCalls (calls ++ [call]) = (ofCalls calls).extend call := by
  have hadded : ∀ {α : Type} (added? : Call → Option α),
      (calls ++ [call]).filterMap added? = calls.filterMap added? ++ (added? call).toList := by
    intro α added?
    rw [List.filterMap_append]
    cases h : added? call with
    | none => simp [h]
    | some value => simp [h]
  unfold ofCalls extend
  simp only [firstGiven_concat, lastGiven_concat, hadded, Option.getD_or]

/-! ## Histories of calls on the options -/

/-- A customization extends the closed form by the calls that take effect. -/
theorem options_customize_ofCalls (calls : List Call) (steps : List Step) :
    ((ofCalls calls).customize steps).options = ofCalls (calls ++ accepted steps) := by
  induction steps generalizing calls with
  | nil => simp [customize, accepted]
  | cons step rest ih =>
      cases step with
      | error obstacle => simp [customize, accepted]
      | ok call =>
          unfold customize accepted
          cases h : (ofCalls calls).apply call with
          | error refusal =>
              have hrefused : call.isAccepted = false := by
                rw [← isOk_apply (ofCalls calls), h]
                rfl
              simp [hrefused]
          | ok next =>
              have haccepted : call.isAccepted = true := by
                rw [← isOk_apply (ofCalls calls), h]
                rfl
              rw [eq_extend_of_apply h, ← ofCalls_concat]
              simp [haccepted, ih]

end Options

namespace Assembly

/-! ## What calls on the assembly give -/

namespace Call

/-- The calls on the options that a call on the assembly makes with effect. -/
@[simp] def optionCalls : Call → List Options.Call
  | .logout customization => Options.accepted customization
  | _ => []

/-- A call enables the sign-out. -/
@[simp] def isLogout : Call → Bool
  | .logout _ => true
  | _ => false

/-- Whether a call leaves request-forgery protection on. -/
@[simp] def csrfEnabled? : Call → Option Bool
  | .csrf enabled _ => some enabled
  | _ => none

/-- The token repository that a call gives. -/
@[simp] def repository? : Call → Option TokenRepository
  | .csrf _ repository => repository
  | _ => none

/-- The remember-me services that a call gives. -/
@[simp] def rememberMe? : Call → Option RememberMe
  | .rememberMe services => services
  | _ => none

/-- The login path that a call gives. -/
@[simp] def loginPath? : Call → Option String
  | .loginPath path => path
  | _ => none

/-- The publisher that a call gives. -/
@[simp] def publisher? : Call → Option Publisher
  | .eventPublisher publisher => publisher
  | _ => none

/-- The hook that a call gives. -/
@[simp] def processor? : Call → Option PostProcessor
  | .postProcessor (.hook processor) => some processor
  | _ => none

end Call

/-- All calls on the options that take effect along a history, across all customizations. -/
def optionCalls (calls : List Call) : List Options.Call :=
  calls.flatMap Call.optionCalls

/-- The assembly after a history of calls. -/
def ofCalls (calls : List Call) : Assembly :=
  { options := if calls.any Call.isLogout then some (.ofCalls (optionCalls calls)) else none
    csrfEnabled := (lastGiven Call.csrfEnabled? calls).getD true
    repository := lastGiven Call.repository? calls
    rememberMe := lastGiven Call.rememberMe? calls
    loginPath := (lastGiven Call.loginPath? calls).getD defaultLoginPath
    publisher := lastGiven Call.publisher? calls
    processor := lastGiven Call.processor? calls }

/-- The assembly with what one call gives. -/
def extend (a : Assembly) (call : Call) : Assembly :=
  { options :=
      match call with
      | .logout customization => some ((a.options.getD .initial).customize customization).options
      | _ => a.options
    csrfEnabled := call.csrfEnabled?.getD a.csrfEnabled
    repository := call.repository?.or a.repository
    rememberMe := call.rememberMe?.or a.rememberMe
    loginPath := call.loginPath?.getD a.loginPath
    publisher := call.publisher?.or a.publisher
    processor := call.processor?.or a.processor }

/-! ## Histories of calls on the assembly -/

/-- Options are there once the sign-out is enabled; before that no call on them was made. -/
theorem options_ofCalls_getD (calls : List Call) :
    (ofCalls calls).options.getD .initial = .ofCalls (optionCalls calls) := by
  by_cases h : calls.any Call.isLogout = true
  · simp [ofCalls, h]
  · have hnone : optionCalls calls = [] := by
      refine List.flatMap_eq_nil_iff.mpr fun call hcall => ?_
      cases call with
      | logout customization => exact absurd (List.any_eq_true.mpr ⟨_, hcall, rfl⟩) h
      | _ => rfl
    simp only [ofCalls, h, hnone]
    rfl

/-- A call sets what it gives, whether it is accepted or not. -/
theorem assembly_apply (a : Assembly) (call : Call) : (a.apply call).assembly = a.extend call := by
  cases call with
  | logout customization => rfl
  | csrf enabled repository =>
      cases repository with
      | none => rfl
      | some repository => rfl
  | rememberMe services =>
      cases services with
      | none => rfl
      | some services => rfl
  | loginPath path =>
      cases path with
      | none => rfl
      | some path => rfl
  | eventPublisher publisher =>
      cases publisher with
      | none => rfl
      | some publisher => rfl
  | postProcessor candidate =>
      cases candidate with
      | hook processor => rfl
      | foreign value =>
          cases value with
          | nothing => rfl
          | text s => rfl
          | object => rfl

/-- The closed form after one more call is the closed form with what that call gives. -/
theorem ofCalls_concat (calls : List Call) (call : Call) :
    ofCalls (calls ++ [call]) = (ofCalls calls).extend call := by
  have hcalls : optionCalls (calls ++ [call]) = optionCalls calls ++ call.optionCalls := by
    simp [optionCalls]
  have hoptions : (ofCalls (calls ++ [call])).options = ((ofCalls calls).extend call).options := by
    cases call with
    | logout customization =>
        show _ = some (Options.customize _ customization).options
        rw [options_ofCalls_getD, Options.options_customize_ofCalls]
        simp [ofCalls, hcalls]
    | _ => simp [ofCalls, extend, hcalls]
  unfold ofCalls extend at hoptions ⊢
  simp only at hoptions
  simp only [hoptions, lastGiven_concat, Option.getD_or]

/-- A call leads from a closed form to a closed form. -/
theorem apply_ofCalls (calls : List Call) (call : Call) :
    ((ofCalls calls).apply call).assembly = ofCalls (calls ++ [call]) := by
  rw [assembly_apply, ofCalls_concat]

/-- Any number of calls, made in order and some of them refused, lead from a closed form to a closed
form. -/
theorem applyAll_ofCalls (calls more : List Call) :
    (ofCalls calls).applyAll more = ofCalls (calls ++ more) := by
  induction more generalizing calls with
  | nil => rw [List.append_nil]; rfl
  | cons call rest ih =>
      show ((ofCalls calls).apply call).assembly.applyAll rest = _
      rw [apply_ofCalls, ih, List.append_assoc]
      rfl

/-- Every history of calls leaves its closed form. -/
theorem applyAll_initial (calls : List Call) : initial.applyAll calls = ofCalls calls := by
  have hinitial : initial = ofCalls [] := rfl
  rw [hinitial, applyAll_ofCalls, List.nil_append]

end Assembly

/-! ## Snapshots -/

namespace Options

variable {c : Options} {s : Surroundings} {configuration : Configuration}

/-- The chain of a snapshot in its five parts; services that are no handler add none. -/
theorem eq_of_allHandlers {handlers : List Handler} (h : c.allHandlers s = .ok handlers) :
    handlers = c.handlers ++ tokenHandlers s ++ (s.rememberMe.bind RememberMe.handler?).toList ++
      [.one (.clearContext c.invalidateSession c.clearAuthentication)] ++ eventHandlers s := by
  obtain ⟨rememberMe, hrememberMe, h⟩ := Checks.bind_eq_ok_iff.mp h
  cases h
  unfold rememberMeHandlers at hrememberMe
  split at hrememberMe
  · rename_i hnone
    cases hrememberMe
    rw [hnone]
    rfl
  · rename_i handler hsome
    obtain ⟨given, hgiven, hrememberMe⟩ := Checks.bind_eq_ok_iff.mp hrememberMe
    cases hrememberMe
    rw [hsome, (Handler.fit_of_requireFit hgiven).2.2]
    rfl

theorem eq_of_mem_tokenHandlers {handler : Handler} (h : handler ∈ tokenHandlers s) :
    ∃ repository, handler = .one (.clearToken repository) := by
  unfold tokenHandlers at h
  split at h
  · exact ⟨_, List.mem_singleton.mp h⟩
  · cases h

theorem eq_of_mem_eventHandlers {handler : Handler} (h : handler ∈ eventHandlers s) :
    ∃ publisher, handler = .one (.publishEvent publisher) := by
  unfold eventHandlers at h
  split at h
  · cases h
  · exact ⟨_, List.mem_singleton.mp h⟩

/-- Without a success handler of its own, a snapshot redirects or negotiates. -/
theorem eq_of_defaultSuccess {success : Success} (h : c.defaultSuccess s = .ok success) :
    c.fallback = some success ∨ (∃ url, success = .answer (.redirect url)) ∨
      ∃ loginPath, success = .answer (.negotiating loginPath) := by
  unfold defaultSuccess at h
  split at h
  · rename_i handler url hgiven
    cases h
    exact Or.inl hgiven
  · rename_i url hnone hurl
    obtain ⟨given, hgiven, h⟩ := Checks.bind_eq_ok_iff.mp h
    cases h
    exact Or.inr (Or.inl ⟨given, rfl⟩)
  · rename_i hnone hurl
    obtain ⟨given, hgiven, h⟩ := Checks.bind_eq_ok_iff.mp h
    cases h
    exact Or.inr (Or.inr ⟨given, rfl⟩)

/-- The parts of a snapshot before they are checked. -/
theorem eq_of_snapshotParts {parts : Configuration} (h : c.snapshotParts s = .ok parts) :
    c.effectiveMatcher s = .ok parts.matcher ∧
      c.allHandlers s = .ok parts.handlers ∧
      parts.routes = c.routes ∧
      c.defaultSuccess s = .ok parts.fallback ∧
      parts.logoutPath = some c.effectivePath := by
  obtain ⟨matcher, hmatcher, h⟩ := Checks.bind_eq_ok_iff.mp h
  obtain ⟨handlers, hhandlers, h⟩ := Checks.bind_eq_ok_iff.mp h
  obtain ⟨fallback, hfallback, h⟩ := Checks.bind_eq_ok_iff.mp h
  cases h
  exact ⟨hmatcher, hhandlers, rfl, hfallback, rfl⟩

/-- A snapshot is its parts, and they pass their check. -/
theorem eq_of_snapshot (h : c.snapshot s = .ok configuration) :
    configuration.check = .ok configuration ∧
      c.effectiveMatcher s = .ok configuration.matcher ∧
      c.allHandlers s = .ok configuration.handlers ∧
      configuration.routes = c.routes ∧
      c.defaultSuccess s = .ok configuration.fallback := by
  obtain ⟨parts, hparts, hcheck⟩ := Checks.bind_eq_ok_iff.mp h
  have hcheck := Checks.mapError_eq_ok_iff.mp hcheck
  obtain rfl := Configuration.eq_of_check hcheck
  obtain ⟨hmatcher, hhandlers, hroutes, hfallback, -⟩ :=
    eq_of_snapshotParts (Checks.mapError_eq_ok_iff.mp hparts)
  exact ⟨hcheck, hmatcher, hhandlers, hroutes, hfallback⟩

end Options

namespace Assembly

/-- The configuration of an assembly is the snapshot of its options. -/
theorem exists_snapshot_of_buildConfiguration {a : Assembly} {c : Configuration}
    (h : a.buildConfiguration = .ok c) :
    ∃ options, a.options = some options ∧ options.snapshot a.surroundings = .ok c := by
  unfold buildConfiguration at h
  split at h
  · cases h
  · rename_i options hoptions
    exact ⟨options, hoptions, Checks.mapError_eq_ok_iff.mp h⟩

/-- A history that has a configuration enabled the sign-out, and the configuration is the snapshot
of its options. -/
theorem snapshot_of_buildConfiguration {calls : List Call} {c : Configuration}
    (h : (initial.applyAll calls).buildConfiguration = .ok c) :
    (Options.ofCalls (optionCalls calls)).snapshot (ofCalls calls).surroundings = .ok c := by
  rw [applyAll_initial] at h
  obtain ⟨options, hsome, hsnapshot⟩ := exists_snapshot_of_buildConfiguration h
  have hoptions := options_ofCalls_getD calls
  rw [hsome] at hoptions
  cases hoptions
  exact hsnapshot

/-- The filter of a stage is the one that its hook returned. -/
theorem postProcess_eq_ok_iff {s : Stage} {processor : PostProcessor} {run : HookRun}
    {filter : Filter} :
    postProcess s processor run = .ok filter ↔
      ∃ replacement, run.outcome = .ok replacement ∧ replacement.asFilter s = .ok filter := by
  unfold postProcess
  cases run.outcome with
  | error obstacle => exact ⟨nofun, nofun⟩
  | ok replacement =>
      cases hfilter : replacement.asFilter s with
      | error typeName => simp [hfilter]
      | ok returned => simp [hfilter]

/-- What is built is the stage of the configuration, bare or decorated, unless a hook put a filter
of the application in its place. -/
theorem exists_stage_of_build {a : Assembly} {filter : Filter}
    (h : a.build.result = .ok filter) :
    ∃ c s, a.buildConfiguration = .ok c ∧ Stage.ofConfiguration c = .ok s ∧
      (filter = .stage s ∨ filter = .decorated s ∨ ∃ other, filter = .substitute other) := by
  unfold build at h
  split at h
  · cases h
  rename_i c hc
  split at h
  · cases h
  rename_i s hs
  refine ⟨c, s, hc, hs, ?_⟩
  unfold finish at h
  cases hprocessor : a.processor with
  | none =>
      rw [hprocessor] at h
      cases h
      exact Or.inl rfl
  | some processor =>
      rw [hprocessor] at h
      obtain ⟨replacement, -, hfilter⟩ := postProcess_eq_ok_iff.mp h
      cases replacement with
      | itself => exact Or.inl (Except.ok.inj hfilter).symm
      | wrapper => exact Or.inr (Or.inl (Except.ok.inj hfilter).symm)
      | substitute other => exact Or.inr (Or.inr ⟨other, (Except.ok.inj hfilter).symm⟩)
      | other typeName => cases hfilter

/-- A filter that lets the stage answer that was built has the stage of the configuration. -/
theorem exists_bare_of_build {a : Assembly} {filter : StageFilter}
    (h : a.build.result = .ok filter) :
    ∃ c, a.buildConfiguration = .ok c ∧ Stage.ofConfiguration c = .ok filter.bare := by
  obtain ⟨c, s, hc, hs, hfilter⟩ := exists_stage_of_build h
  refine ⟨c, hc, ?_⟩
  cases filter with
  | stage bare =>
      rcases hfilter with hsame | hsame | ⟨other, hsame⟩ <;> cases hsame
      exact hs
  | decorated bare =>
      rcases hfilter with hsame | hsame | ⟨other, hsame⟩ <;> cases hsame
      exact hs

/-- The chain that a history of calls configures, in its order: what was added by accepted calls
across all customizations, the removal of the token from the last repository while protection is
on, the last remember-me services as far as they are a handler, the clearing of the session and
the user by the last switches, and the publication of the event by the last publisher. -/
theorem handlers_eq_of_buildConfiguration {calls : List Call} {c : Configuration}
    (h : (initial.applyAll calls).buildConfiguration = .ok c) :
    c.handlers =
      (optionCalls calls).filterMap Options.Call.handler? ++
      (if (lastGiven Call.csrfEnabled? calls).getD true then
        (lastGiven Call.repository? calls).toList.map fun repository =>
          .one (.clearToken repository)
      else []) ++
      ((lastGiven Call.rememberMe? calls).bind RememberMe.handler?).toList ++
      [.one (.clearContext
        ((lastGiven Options.Call.invalidateSession? (optionCalls calls)).getD .on)
        ((lastGiven Options.Call.clearAuthentication? (optionCalls calls)).getD .on))] ++
      (lastGiven Call.publisher? calls).toList.map fun publisher =>
        .one (.publishEvent publisher) := by
  obtain ⟨-, -, hhandlers, -⟩ := Options.eq_of_snapshot (snapshot_of_buildConfiguration h)
  have htoken : Options.tokenHandlers (ofCalls calls).surroundings =
      if (lastGiven Call.csrfEnabled? calls).getD true then
        (lastGiven Call.repository? calls).toList.map fun repository =>
          .one (.clearToken repository)
      else [] := by
    unfold Options.tokenHandlers surroundings ofCalls
    cases (lastGiven Call.csrfEnabled? calls).getD true with
    | false => rfl
    | true =>
        cases lastGiven Call.repository? calls with
        | none => rfl
        | some repository => rfl
  have hevent : Options.eventHandlers (ofCalls calls).surroundings =
      (lastGiven Call.publisher? calls).toList.map fun publisher =>
        .one (.publishEvent publisher) := by
    unfold Options.eventHandlers surroundings ofCalls
    cases lastGiven Call.publisher? calls with
    | none => rfl
    | some publisher => rfl
  rw [Options.eq_of_allHandlers hhandlers, htoken, hevent]
  rfl

/-- A history with two customizations, of which the second ends at a handler that is refused, and
with services that are refused before others are accepted. -/
def sampleCalls : List Call :=
  [.csrf true (some { cookie := some "csrf" }),
    .logout [.ok (.addHandler (.one .forgetUser)), .ok (.invalidateSession .off)],
    .rememberMe none,
    .logout [.ok (.deleteCookies [some "SESSION"]), .ok (.addHandler (.one (.foreign .nothing))),
      .ok (.clearAuthentication .off)],
    .csrf true none, .rememberMe (some .withLogout), .eventPublisher (some { failure := none })]

theorem handlers_eq_sample :
    ∃ c, (initial.applyAll sampleCalls).buildConfiguration = .ok c ∧
      c.handlers =
        [.one .forgetUser, .one (.expireCookies ["SESSION"] (some "/") none),
          .one (.clearToken { cookie := some "csrf" }), .one .forgetUser,
          .one (.clearContext .off .on), .one (.publishEvent { failure := none })] := by
  have h : ∃ c, (initial.applyAll sampleCalls).buildConfiguration = .ok c := ⟨_, rfl⟩
  obtain ⟨c, hc⟩ := h
  refine ⟨c, hc, ?_⟩
  rw [handlers_eq_of_buildConfiguration hc]
  rfl

end Assembly
end SignOut
