import SignOut.Proofs.Wrapping

/-!
# When there is a configuration

What a call hands over is checked when it is handed over, so nothing that an assembly has collected
is missing.  One call on the options keeps this, whether it is accepted or refused; so do a
customization, a call on the assembly and a script.  The checks that are made once more when a
configuration is taken and when its stage is built therefore never find anything.  Only the
remember-me services are looked into no earlier than that, and so there is no configuration exactly
if the sign-out was never enabled or the services that were given last define an operation to sign
out that cannot be awaited.  Services with nothing under the name of that operation define none.
-/

namespace SignOut

/-! ## Arguments that are there -/

/-- A configuration none of whose parts is missing passes its check. -/
theorem Configuration.check_of_given {c : Configuration}
    (hhandlers : ∀ handler ∈ c.handlers, handler.isNothing = false)
    (hroutes : ∀ route ∈ c.routes, lacksPart route = false)
    (hfallback : c.fallback.isNothing = false) : c.check = .ok c := by
  have hchain : c.handlers.any Handler.isNothing = false :=
    List.any_eq_false.mpr fun handler hmem => Bool.eq_false_iff.mp (hhandlers handler hmem)
  have hwhole : c.routes.any lacksPart = false :=
    List.any_eq_false.mpr fun route hmem => Bool.eq_false_iff.mp (hroutes route hmem)
  unfold Configuration.check
  rw [hchain, hwhole, hfallback]
  rfl

namespace Options

/-! ## Options that are whole -/

/-- Nothing that was collected is missing: there is a value in the place of every handler, of both
parts of every route, and of the matcher and the default success handler as far as they were set.
The path and the URL are texts if they were set at all. -/
structure Whole (c : Options) : Prop where
  matcher : ∀ matcher, c.matcher = some matcher → matcher.isNothing = false
  handlers : ∀ handler ∈ c.handlers, handler.isNothing = false
  routes : ∀ route ∈ c.routes, Configuration.lacksPart route = false
  fallback : ∀ success, c.fallback = some success → success.isNothing = false

variable {c next : Options} {s : Surroundings}

theorem whole_initial : Whole initial where
  matcher := nofun
  handlers := nofun
  routes := nofun
  fallback := nofun

theorem Whole.addHandler {handler : Handler} (h : c.Whole)
    (hadded : c.addHandler handler = .ok next) : next.Whole := by
  obtain ⟨given, hgiven, -⟩ := Checks.bind_eq_ok_iff.mp hadded
  rw [eq_of_addHandler hadded]
  refine ⟨h.matcher, fun other hmem => ?_, h.routes, h.fallback⟩
  rcases List.mem_append.mp hmem with hmem | hmem
  · exact h.handlers other hmem
  · rw [List.mem_singleton.mp hmem]
    exact (Handler.fit_of_requireFit hgiven).1

/-- A call that is accepted adds and sets only what is there. -/
theorem Whole.apply {call : Call} (h : c.Whole) (happly : c.apply call = .ok next) :
    next.Whole := by
  cases call with
  | setPath path =>
      obtain ⟨given, -, happly⟩ := Checks.bind_eq_ok_iff.mp happly
      cases happly
      exact ⟨h.matcher, h.handlers, h.routes, h.fallback⟩
  | setRequestMatcher matcher =>
      obtain ⟨given, hgiven, happly⟩ := Checks.bind_eq_ok_iff.mp happly
      cases happly
      refine ⟨fun set hset => ?_, h.handlers, h.routes, h.fallback⟩
      obtain ⟨hthere, -, rfl⟩ := fit_of_requireMatcher hgiven
      exact Option.some.inj hset ▸ hthere
  | addHandler handler => exact h.addHandler happly
  | deleteCookies names =>
      obtain ⟨handler, -, happly⟩ := Checks.bind_eq_ok_iff.mp happly
      exact h.addHandler happly
  | addSessionStore removal =>
      obtain ⟨given, -, happly⟩ := Checks.bind_eq_ok_iff.mp happly
      obtain ⟨handler, -, happly⟩ := Checks.bind_eq_ok_iff.mp happly
      exact h.addHandler happly
  | invalidateSession enabled =>
      cases happly
      exact ⟨h.matcher, h.handlers, h.routes, h.fallback⟩
  | clearAuthentication enabled =>
      cases happly
      exact ⟨h.matcher, h.handlers, h.routes, h.fallback⟩
  | addSuccessRoute handler matcher =>
      obtain ⟨success, hsuccess, happly⟩ := Checks.bind_eq_ok_iff.mp happly
      obtain ⟨asked, hasked, happly⟩ := Checks.bind_eq_ok_iff.mp happly
      cases happly
      refine ⟨h.matcher, h.handlers, fun route hmem => ?_, h.fallback⟩
      rcases List.mem_append.mp hmem with hmem | hmem
      · exact h.routes route hmem
      · obtain ⟨hmatcher, -, rfl⟩ := fit_of_requireMatcher hasked
        obtain ⟨htarget, -, rfl⟩ := Success.fit_of_requireFit hsuccess
        rw [List.mem_singleton.mp hmem]
        exact Bool.or_eq_false_iff.mpr ⟨hmatcher, htarget⟩
  | setDefaultSuccessHandler handler =>
      obtain ⟨success, hsuccess, happly⟩ := Checks.bind_eq_ok_iff.mp happly
      cases happly
      refine ⟨h.matcher, h.handlers, h.routes, fun set hset => ?_⟩
      obtain ⟨hthere, -, rfl⟩ := Success.fit_of_requireFit hsuccess
      exact Option.some.inj hset ▸ hthere
  | setSuccessUrl url =>
      obtain ⟨given, -, happly⟩ := Checks.bind_eq_ok_iff.mp happly
      cases happly
      exact ⟨h.matcher, h.handlers, h.routes, h.fallback⟩

/-- A customization leaves whole options, also if it ends early. -/
theorem Whole.customize (h : c.Whole) (steps : List Step) : (c.customize steps).options.Whole := by
  induction steps generalizing c with
  | nil => exact h
  | cons step rest ih =>
      cases step with
      | error obstacle => exact h
      | ok call =>
          unfold Options.customize
          cases happly : c.apply call with
          | error refusal => exact h
          | ok next => exact ih (h.apply happly)

/-! ## Snapshots of whole options -/

/-- The parts of a snapshot of whole options pass their check. -/
theorem Whole.check_of_snapshotParts {parts : Configuration} (h : c.Whole)
    (hparts : c.snapshotParts s = .ok parts) : parts.check = .ok parts := by
  obtain ⟨-, hhandlers, hroutes, hfallback, -⟩ := eq_of_snapshotParts hparts
  refine Configuration.check_of_given (fun handler hmem => ?_) (hroutes ▸ h.routes) ?_
  · -- one case for each of the five parts of the chain
    rw [eq_of_allHandlers hhandlers] at hmem
    simp only [List.mem_append] at hmem
    rcases hmem with (((hadded | htoken) | hservices) | hcontext) | hevent
    · exact h.handlers handler hadded
    · obtain ⟨repository, rfl⟩ := eq_of_mem_tokenHandlers htoken
      rfl
    · exact Assembly.isNothing_of_rememberMe (Option.mem_toList.mp hservices)
    · rw [List.mem_singleton.mp hcontext]
      rfl
    · obtain ⟨publisher, rfl⟩ := eq_of_mem_eventHandlers hevent
      rfl
  · rcases eq_of_defaultSuccess hfallback with hgiven | ⟨url, hredirect⟩ | ⟨path, hnegotiated⟩
    · exact h.fallback _ hgiven
    · rw [hredirect]
      rfl
    · rw [hnegotiated]
      rfl

/-- A snapshot of whole options that cannot be taken was refused an argument. -/
theorem Whole.exists_refusal_of_snapshot {fault : SnapshotFault} (h : c.Whole)
    (hsnapshot : c.snapshot s = .error fault) : ∃ e, fault = .argument e := by
  rcases Checks.bind_eq_error_iff.mp hsnapshot with hrefused | ⟨parts, hparts, hlacking⟩
  · obtain ⟨e, -, heq⟩ := Checks.mapError_eq_error_iff.mp hrefused
    exact ⟨e, heq.symm⟩
  · have hchecked := h.check_of_snapshotParts (Checks.mapError_eq_ok_iff.mp hparts)
    obtain ⟨part, hpart, -⟩ := Checks.mapError_eq_error_iff.mp hlacking
    cases hchecked.symm.trans hpart

end Options

namespace Assembly

/-! ## Assemblies that are whole -/

/-- The options of an assembly, if it has any, are whole. -/
def Whole (a : Assembly) : Prop :=
  ∀ options, a.options = some options → options.Whole

variable {a : Assembly} {history : List Call} {error : ConfigurationError} {c : Configuration}

theorem whole_initial : Whole initial :=
  nofun

/-- No call takes anything away, whether it is accepted or refused. -/
theorem Whole.apply (h : a.Whole) (call : Call) : (a.apply call).assembly.Whole := by
  rw [assembly_apply]
  cases call with
  | logout customization =>
      intro options hoptions
      rw [← Option.some.inj hoptions]
      refine Options.Whole.customize ?_ customization
      cases hcollected : a.options with
      | none => exact Options.whole_initial
      | some collected => exact h collected hcollected
  | _ => exact h

/-- Nothing is missing after any history of calls. -/
theorem Whole.applyAll (h : a.Whole) (calls : List Call) : (a.applyAll calls).Whole := by
  induction calls generalizing a with
  | nil => exact h
  | cons call rest ih => exact ih (h.apply call)

/-- Nothing is missing after any script, wherever it started. -/
theorem LeftBy.whole (h : a.LeftBy history) : a.Whole := by
  rw [h.eq]
  exact whole_initial.applyAll history

/-! ## Configurations of whole assemblies -/

/-- A whole assembly has no configuration exactly if the sign-out is not enabled or its services are
refused. -/
theorem Whole.buildConfiguration_eq_error_iff (h : a.Whole) :
    a.buildConfiguration = .error error ↔
      (a.options = none ∧ error = .notEnabled) ∨
      ∃ e, a.RefusesServices e ∧ error = .unbuildable (.argument e) := by
  constructor
  · intro hfailed
    cases hoptions : a.options with
    | none =>
        unfold buildConfiguration at hfailed
        rw [hoptions] at hfailed
        cases hfailed
        exact Or.inl ⟨rfl, rfl⟩
    | some options =>
        refine Or.inr ?_
        have hsnapshot := hfailed
        unfold buildConfiguration at hsnapshot
        rw [hoptions] at hsnapshot
        obtain ⟨fault, hfault, rfl⟩ := Checks.mapError_eq_error_iff.mp hsnapshot
        obtain ⟨e, rfl⟩ := (h options hoptions).exists_refusal_of_snapshot hfault
        exact ⟨e, buildConfiguration_eq_unbuildable_iff.mp hfailed, rfl⟩
  · rintro (⟨hnone, rfl⟩ | ⟨e, hrefused, rfl⟩)
    · unfold buildConfiguration
      rw [hnone]
    · exact buildConfiguration_eq_unbuildable_iff.mpr hrefused

/-- The sign-out is not enabled exactly if no call of the history was one that enables it. -/
theorem options_ofCalls_eq_none_iff {calls : List Call} :
    (ofCalls calls).options = none ↔ ∀ call ∈ calls, call.isLogout = false := by
  have hany : calls.any Call.isLogout = false ↔ ∀ call ∈ calls, call.isLogout = false := by
    rw [List.any_eq_false]
    exact forall₂_congr fun call _ => Iff.of_eq (Bool.not_eq_true _)
  rw [← hany]
  unfold ofCalls
  cases calls.any Call.isLogout with
  | true => exact ⟨nofun, nofun⟩
  | false => exact ⟨fun _ => rfl, fun _ => rfl⟩

/-- A configuration that passes its check has its stage: the handlers run as one chain, and the
routes are tried in their order. -/
theorem ofConfiguration_of_check (h : c.check = .ok c) :
    Handler.composite c.handlers = .ok (.many c.handlers) ∧
      Success.delegating c.routes c.fallback = .ok (.routed c.routes c.fallback) ∧
      Stage.ofConfiguration c = .ok { configuration := c, handler := .many c.handlers
                                      success := .routed c.routes c.fallback } := by
  obtain ⟨s, hs⟩ := Stage.exists_of_check h
  have hstage := Stage.eq_of_ofConfiguration hs
  obtain ⟨handler, hhandler, hrest⟩ := Checks.bind_eq_ok_iff.mp hs
  obtain ⟨success, hsuccess, hmade⟩ := Checks.bind_eq_ok_iff.mp hrest
  cases hmade
  cases hstage
  exact ⟨hhandler, hsuccess, hs⟩

end Assembly

/-- Remember-me services define an operation to sign out, but one that cannot be awaited.  A member
that is nothing is not such an operation. -/
def RememberMe.Unawaitable (services : RememberMe) : Prop :=
  ∃ handler typeName, services.handler? = some handler ∧ handler.unfitType? = some typeName

namespace Assembly

variable {a : Assembly} {history : List Call} {error : ConfigurationError}

/-- Services are refused if the sign-out is enabled and their operation cannot be awaited. -/
theorem exists_refusesServices_iff :
    (∃ e, a.RefusesServices e) ↔
      a.options.isSome ∧ ∃ services, a.rememberMe = some services ∧ services.Unawaitable := by
  constructor
  · rintro ⟨e, henabled, handler, typeName, hhandler, hunfit, -⟩
    obtain ⟨services, hgiven, hof⟩ := Option.bind_eq_some_iff.mp hhandler
    exact ⟨henabled, services, hgiven, handler, typeName, hof, hunfit⟩
  · rintro ⟨henabled, services, hgiven, handler, typeName, hof, hunfit⟩
    have hhandler : a.rememberMe.bind RememberMe.handler? = some handler :=
      Option.bind_eq_some_iff.mpr ⟨services, hgiven, hof⟩
    exact ⟨_, henabled, handler, typeName, hhandler, hunfit, rfl⟩

/-- A whole assembly has no configuration if the sign-out is not enabled, or else if its services
cannot be awaited. -/
theorem Whole.exists_error_iff (h : a.Whole) :
    (∃ error, a.buildConfiguration = .error error) ↔
      a.options = none ∨ ∃ services, a.rememberMe = some services ∧ services.Unawaitable := by
  constructor
  · rintro ⟨error, herror⟩
    rcases h.buildConfiguration_eq_error_iff.mp herror with ⟨hnone, -⟩ | ⟨e, hrefused, -⟩
    · exact Or.inl hnone
    · exact Or.inr (exists_refusesServices_iff.mp ⟨e, hrefused⟩).2
  · intro hreason
    cases hoptions : a.options with
    | none => exact ⟨_, h.buildConfiguration_eq_error_iff.mpr (Or.inl ⟨hoptions, rfl⟩)⟩
    | some options =>
        have hservices := hreason.resolve_left (by rw [hoptions]; nofun)
        have henabled : a.options.isSome := by rw [hoptions]; rfl
        obtain ⟨e, hrefused⟩ := exists_refusesServices_iff.mpr ⟨henabled, hservices⟩
        exact ⟨_, h.buildConfiguration_eq_error_iff.mpr (Or.inr ⟨e, hrefused, rfl⟩)⟩

/-- A script leaves an assembly without a configuration exactly if none of its calls enabled the
sign-out, where a call counts whose customization failed, or if the remember-me services that were
accepted last define an operation to sign out that cannot be awaited.  The error says which of the
two it is; it never says that a part is missing, since the parts of every snapshot pass the check of
configurations, and those of every configuration pass the checks of chains, routes and stages. -/
theorem buildConfiguration_fails_iff (hleft : a.LeftBy history) :
    (∀ services, (a.apply (.rememberMe services)).failure = none ↔ services.isSome) ∧
    ((∃ error, a.buildConfiguration = .error error) ↔
      (∀ call ∈ history, call.isLogout = false) ∨
      ∃ services, lastGiven Call.rememberMe? history = some services ∧ services.Unawaitable) ∧
    (∀ error, a.buildConfiguration = .error error → error = .notEnabled ∨
      ∃ typeName, error = .unbuildable (.argument
        { argument := "remember_me_services", fault := .notAHandler typeName })) ∧
    (∀ options parts, a.options = some options →
      options.snapshotParts a.surroundings = .ok parts → parts.check = .ok parts) ∧
    ∀ c, a.buildConfiguration = .ok c →
      Handler.composite c.handlers = .ok (.many c.handlers) ∧
      Success.delegating c.routes c.fallback = .ok (.routed c.routes c.fallback) ∧
      Stage.ofConfiguration c = .ok { configuration := c, handler := .many c.handlers
                                      success := .routed c.routes c.fallback } := by
  have hwhole := hleft.whole
  have hofCalls : a = ofCalls history := hleft.eq.trans (applyAll_initial history)
  refine ⟨?_, ?_, ?_, ?_, ?_⟩
  · intro services
    cases services with
    | none => exact ⟨nofun, nofun⟩
    | some services => exact ⟨fun _ => rfl, fun _ => rfl⟩
  · rw [hwhole.exists_error_iff, hofCalls, options_ofCalls_eq_none_iff]
    rfl
  · intro error herror
    rcases hwhole.buildConfiguration_eq_error_iff.mp herror with ⟨-, rfl⟩ | ⟨e, hrefused, rfl⟩
    · exact Or.inl rfl
    · obtain ⟨-, -, typeName, -, -, rfl⟩ := hrefused
      exact Or.inr ⟨typeName, rfl⟩
  · intro options parts hoptions hparts
    exact (hwhole options hoptions).check_of_snapshotParts hparts
  · intro c hc
    rw [hleft.eq] at hc
    exact ofConfiguration_of_check (Options.eq_of_snapshot (snapshot_of_buildConfiguration hc)).1

/-- A script whose only customization fails at once, with services that cannot be awaited: services
that are missing do not take their place. -/
def sampleUnawaitable : List Operation :=
  [.make (.rememberMe (some (.unawaited "Tokens"))), .configuration,
    .make (.logout [.ok (.addHandler (.one (.foreign .nothing))), .ok (.setPath (some "/bye"))]),
    .make (.rememberMe none)]

/-- The same script with other services in the end. -/
def sampleAwaitable : List Operation :=
  sampleUnawaitable ++ [.make (.rememberMe (some .withLogout))]

theorem buildConfiguration_fails_iff_sample :
    (∃ error, (initial.perform sampleUnawaitable).buildConfiguration = .error error) ∧
    ¬ (∃ error, (initial.perform sampleAwaitable).buildConfiguration = .error error) ∧
    ∃ error, (initial.perform [.make (.rememberMe (some .withLogout))]).buildConfiguration =
      .error error := by
  have hfails := fun script => (buildConfiguration_fails_iff (.script .fresh script)).2.1
  refine ⟨(hfails sampleUnawaitable).mpr (Or.inr ?_), ?_, (hfails _).mpr (Or.inl ?_)⟩
  · exact ⟨.unawaited "Tokens", rfl, _, "Tokens", rfl, rfl⟩
  · rw [hfails sampleAwaitable]
    rintro (hnever | ⟨services, hgiven, handler, typeName, hof, hunfit⟩)
    · have henabled := hnever (.logout [.ok (.addHandler (.one (.foreign .nothing))),
        .ok (.setPath (some "/bye"))]) (by simp [madeCalls, sampleAwaitable, sampleUnawaitable])
      cases henabled
    · cases hgiven
      cases hof
      cases hunfit
  · intro call hcall
    rw [List.mem_singleton.mp hcall]
    rfl

/-- A history that gives services which withdrew their operation. -/
def sampleWithdrawn : List Call :=
  [.rememberMe (some .withdrawn), .logout []]

/-- Not every member that is no awaitable operation stands in the way of a configuration: there is
one for services that have nothing under the name of the operation.  And settings alone lead to a
configuration, without a call that enables the sign-out besides. -/
theorem builds_of_withdrawn_services :
    (lastGiven Call.rememberMe? sampleWithdrawn = some .withdrawn ∧
      RememberMe.withdrawn.member ≠ .absent ∧
      (∀ handler, RememberMe.withdrawn.member ≠ .operation handler) ∧
      ∃ c, (initial.applyAll sampleWithdrawn).buildConfiguration = .ok c) ∧
    ∃ c, (ofSettings .standard false).assembly.buildConfiguration = .ok c :=
  ⟨⟨rfl, nofun, nofun, _, rfl⟩, _, rfl⟩

end Assembly

end SignOut
