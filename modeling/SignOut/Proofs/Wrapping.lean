import SignOut.Proofs.Script

/-!
# How refused arguments surface

The assembly refuses arguments in three places: in the customization of the options, in a call on
the assembly that must be given something, and by the snapshot, which alone looks at the remember-me
services.  Wherever that happens, the operation fails with a configuration error whose cause is the
refusal and whose words end with the words of the refusal.  The calls also hand on the details of
the refusal, so that a report names the argument.  A failed snapshot does not: its report has no
details, although its cause has.  A hook can come to a refusal of its own while a build runs it;
that one, and no other, leaves the operation bare.
-/

namespace SignOut

/-! ## Configuration errors and their causes -/

namespace ConfigurationError

variable {error : ConfigurationError} {e : InvalidArgument}

/-- An error with a cause was made by one of the two ways of wrapping a refusal. -/
theorem cause?_eq_some_iff :
    error.cause? = some e ↔
      (∃ phase, error = .rejected phase e) ∨ error = .unbuildable (.argument e) := by
  constructor
  · intro h
    -- the other errors have no room for a cause, or say what part is missing
    cases error with
    | rejected phase cause =>
        cases h
        exact Or.inl ⟨phase, rfl⟩
    | unbuildable cause =>
        cases cause with
        | argument cause =>
            cases h
            exact Or.inr rfl
        | incomplete part => cases h
    | notEnabled => cases h
    | notAPostProcessor typeName => cases h
    | notAFilter processor result => cases h
    | stated message details => cases h
  · rintro (⟨phase, rfl⟩ | rfl)
    · rfl
    · rfl

/-- The words of a refusal end the words of the error that wraps it. -/
theorem message_of_cause? (h : error.cause? = some e) :
    ∃ introduction, error.message = introduction ++ e.message := by
  rcases cause?_eq_some_iff.mp h with ⟨phase, rfl⟩ | rfl
  · exact ⟨phase.introduction, rfl⟩
  · exact ⟨"Failed to build logout configuration: ", rfl⟩

end ConfigurationError

/-! ## Where an argument is refused -/

/-- A customization comes to a refusal: the argument of a step cannot be built, or a call refuses
its own, and every step ahead of it was accepted. -/
inductive Options.Refuses : Options → List Options.Step → InvalidArgument → Prop
  | unbuilt (c : Options) (e : InvalidArgument) (rest : List Options.Step) :
      Refuses c (.error (.refused e) :: rest) e
  | call {c : Options} {call : Options.Call} {e : InvalidArgument} (h : c.apply call = .error e)
      (rest : List Options.Step) : Refuses c (.ok call :: rest) e
  | later {c next : Options} {call : Options.Call} {rest : List Options.Step} {e : InvalidArgument}
      (h : c.apply call = .ok next) (hrest : Refuses next rest e) : Refuses c (.ok call :: rest) e

/-- A customization ends at a refusal iff it comes to it. -/
theorem Options.obstacle_customize_eq_refused_iff {c : Options} {steps : List Options.Step}
    {e : InvalidArgument} :
    (c.customize steps).obstacle = some (.refused e) ↔ c.Refuses steps e := by
  induction steps generalizing c with
  | nil =>
      constructor
      · intro h
        cases h
      · intro h
        cases h
  | cons step rest ih =>
      cases step with
      | error obstacle =>
          constructor
          · intro h
            cases h
            exact .unbuilt c e rest
          · intro h
            cases h
            rfl
      | ok call =>
          -- the call refuses here and now, or what it refuses later is known by induction
          unfold customize
          cases happly : c.apply call with
          | error refusal =>
              constructor
              · intro h
                cases h
                exact .call happly rest
              · intro h
                cases h with
                | call h => cases happly.symm.trans h; rfl
                | later h hrest => cases happly.symm.trans h
          | ok next =>
              refine ih.trans ⟨.later happly, ?_⟩
              intro h
              cases h with
              | call h => cases happly.symm.trans h
              | later h hrest => cases happly.symm.trans h; exact hrest

namespace Assembly

/-- The remember-me services of an enabled sign-out are refused: they have a handler in them that
lacks the operation of one. -/
def RefusesServices (a : Assembly) (e : InvalidArgument) : Prop :=
  a.options.isSome ∧ ∃ handler typeName, a.rememberMe.bind RememberMe.handler? = some handler ∧
    handler.unfitType? = some typeName ∧
    e = { argument := "remember_me_services", fault := .notAHandler typeName }

/-- The hook of an assembly refuses an argument on its own, while it runs on the stage that was
built. -/
def HookRefuses (a : Assembly) (e : InvalidArgument) : Prop :=
  ∃ c s processor, a.buildConfiguration = .ok c ∧ Stage.ofConfiguration c = .ok s ∧
    a.processor = some processor ∧ (processor.act s).outcome = .error (.refused e)

/-- An operation on an assembly comes to an argument that is refused. -/
inductive Operation.Refuses (a : Assembly) : Operation → InvalidArgument → Prop
  | customization {steps : List Options.Step} {e : InvalidArgument}
      (h : (a.options.getD .initial).Refuses steps e) : Refuses a (.make (.logout steps)) e
  | services : Refuses a (.make (.rememberMe none)) (.missing "services")
  | loginPath : Refuses a (.make (.loginPath none)) (.missing "login_path")
  | publisher : Refuses a (.make (.eventPublisher none)) (.missing "publisher")
  | processor : Refuses a (.make (.postProcessor (.foreign .nothing))) (.missing "processor")
  | configuration {e : InvalidArgument} (h : a.RefusesServices e) : Refuses a .configuration e
  | build {e : InvalidArgument} (h : a.RefusesServices e) : Refuses a .build e

/-! ## What leaves an operation that fails -/

/-- The failure of a call, among the failures of all operations. -/
def CallFailure.raised : CallFailure → BuildFailure
  | .configuration e => .configuration e
  | .fault f => .collaborator f

/-- What leaves an operation that fails. -/
def Operation.failure? (a : Assembly) : Operation → Option BuildFailure
  | .make call => (a.apply call).failure.map CallFailure.raised
  | .configuration =>
      match a.buildConfiguration with
      | .ok _ => none
      | .error e => some (.configuration e)
  | .build =>
      match a.build.result with
      | .ok _ => none
      | .error failure => some failure

variable {a : Assembly} {operation : Operation} {error : ConfigurationError} {e : InvalidArgument}

theorem failure?_configuration_eq_some_iff {failure : BuildFailure} :
    Operation.configuration.failure? a = some failure ↔
      ∃ error, a.buildConfiguration = .error error ∧ failure = .configuration error := by
  unfold Operation.failure?
  cases a.buildConfiguration with
  | ok c => exact ⟨nofun, nofun⟩
  | error error =>
      constructor
      · intro h
        cases h
        exact ⟨error, rfl, rfl⟩
      · rintro ⟨error', herror, rfl⟩
        cases herror
        rfl

theorem failure?_build_eq_some_iff {failure : BuildFailure} :
    Operation.build.failure? a = some failure ↔ a.build.result = .error failure := by
  unfold Operation.failure?
  cases a.build.result with
  | ok filter => exact ⟨nofun, nofun⟩
  | error failure' =>
      constructor
      · intro h
        cases h
        rfl
      · intro h
        cases h
        rfl

/-! ## Snapshots that refuse the services -/

/-- The handler of remember-me services is there; it can only lack the operation of one. -/
theorem isNothing_of_rememberMe {services : Option RememberMe} {handler : Handler}
    (h : services.bind RememberMe.handler? = some handler) : handler.isNothing = false := by
  obtain ⟨given, -, hhandler⟩ := Option.bind_eq_some_iff.mp h
  cases given with
  | only => cases hhandler
  | object => cases hhandler
  | withLogout => cases hhandler; rfl
  | unawaited => cases hhandler; rfl
  | withdrawn => cases hhandler
  | custom collaborator => cases hhandler; rfl

/-- A handler that is there is refused iff it lacks the operation. -/
theorem requireFit_eq_error_iff {handler : Handler} {argument : String}
    (hgiven : handler.isNothing = false) :
    handler.requireFit argument = .error e ↔
      ∃ typeName, handler.unfitType? = some typeName ∧
        e = { argument, fault := .notAHandler typeName } := by
  have hthere : handler.require argument = .ok handler := by
    unfold Handler.require
    rw [hgiven]
    rfl
  unfold Handler.requireFit
  rw [hthere]
  cases hunfit : handler.unfitType? with
  | none =>
      constructor
      · intro h
        rcases Checks.bind_eq_error_iff.mp h with h | ⟨given, hgiven, h⟩
        · cases h
        · cases hgiven
          simp only [hunfit] at h
          cases h
      · rintro ⟨typeName, h, -⟩
        cases h
  | some typeName =>
      constructor
      · intro h
        rcases Checks.bind_eq_error_iff.mp h with h | ⟨given, hgiven, h⟩
        · cases h
        · cases hgiven
          simp only [hunfit] at h
          cases h
          exact ⟨typeName, rfl, rfl⟩
      · rintro ⟨_, h, rfl⟩
        cases h
        refine Checks.bind_eq_error_iff.mpr (Or.inr ⟨handler, rfl, ?_⟩)
        simp only [hunfit]

/-- The handlers of a snapshot are refused iff the services are a handler without its operation. -/
theorem rememberMeHandlers_eq_error_iff {s : Options.Surroundings} :
    Options.rememberMeHandlers s = .error e ↔
      ∃ handler typeName, s.rememberMe.bind RememberMe.handler? = some handler ∧
        handler.unfitType? = some typeName ∧
        e = { argument := "remember_me_services", fault := .notAHandler typeName } := by
  unfold Options.rememberMeHandlers
  cases hservices : s.rememberMe.bind RememberMe.handler? with
  | none =>
      constructor
      · intro h
        cases h
      · rintro ⟨handler, typeName, h, -⟩
        cases h
  | some handler =>
      have hgiven := isNothing_of_rememberMe hservices
      constructor
      · intro h
        rcases Checks.bind_eq_error_iff.mp h with h | ⟨given, -, h⟩
        · obtain ⟨typeName, hunfit⟩ := (requireFit_eq_error_iff hgiven).mp h
          exact ⟨handler, typeName, rfl, hunfit⟩
        · cases h
      · rintro ⟨given, typeName, hsame, hunfit⟩
        cases hsame
        exact Checks.bind_eq_error_iff.mpr
          (Or.inl ((requireFit_eq_error_iff hgiven).mpr ⟨typeName, hunfit⟩))

/-- Of what an assembly hands to a snapshot, only the services can be refused: the path and the
login path of an assembly are always there. -/
theorem snapshotParts_eq_error_iff {o : Options} :
    o.snapshotParts a.surroundings = .error e ↔
      Options.rememberMeHandlers a.surroundings = .error e := by
  -- the matcher and the success handler can always be had, so the chain decides
  have hmatcher : ∃ matcher, o.effectiveMatcher a.surroundings = .ok matcher := by
    unfold Options.effectiveMatcher
    split
    · exact ⟨_, rfl⟩
    · exact ⟨_, rfl⟩
  have hfallback : ∃ fallback, o.defaultSuccess a.surroundings = .ok fallback := by
    unfold Options.defaultSuccess
    split
    · exact ⟨_, rfl⟩
    · exact ⟨_, rfl⟩
    · exact ⟨_, rfl⟩
  obtain ⟨matcher, hmatcher⟩ := hmatcher
  obtain ⟨fallback, hfallback⟩ := hfallback
  unfold Options.snapshotParts Options.allHandlers
  rw [hmatcher, hfallback]
  cases Options.rememberMeHandlers a.surroundings with
  | error refusal => exact ⟨fun h => by cases h; rfl, fun h => by cases h; rfl⟩
  | ok handlers => exact ⟨nofun, nofun⟩

/-- A snapshot is refused for an argument iff one of its parts is. -/
theorem snapshot_eq_argument_iff {o : Options} {s : Options.Surroundings} :
    o.snapshot s = .error (.argument e) ↔ o.snapshotParts s = .error e := by
  unfold Options.snapshot
  constructor
  · intro h
    rcases Checks.bind_eq_error_iff.mp h with h | ⟨parts, -, h⟩
    · obtain ⟨refusal, hparts, heq⟩ := Checks.mapError_eq_error_iff.mp h
      cases heq
      exact hparts
    · -- a part that is missing altogether is an error of another kind
      obtain ⟨part, -, heq⟩ := Checks.mapError_eq_error_iff.mp h
      cases heq
  · intro h
    exact Checks.bind_eq_error_iff.mpr (Or.inl (Checks.mapError_eq_error_iff.mpr ⟨e, h, rfl⟩))

/-- A configuration is refused for an argument iff the services are. -/
theorem buildConfiguration_eq_unbuildable_iff :
    a.buildConfiguration = .error (.unbuildable (.argument e)) ↔ a.RefusesServices e := by
  unfold buildConfiguration RefusesServices
  cases a.options with
  | none => exact ⟨nofun, nofun⟩
  | some o =>
      have hsnapshot : o.snapshot a.surroundings = .error (.argument e) ↔ _ :=
        snapshot_eq_argument_iff.trans
          (snapshotParts_eq_error_iff.trans rememberMeHandlers_eq_error_iff)
      constructor
      · intro h
        obtain ⟨cause, hcause, heq⟩ := Checks.mapError_eq_error_iff.mp h
        cases heq
        exact ⟨rfl, hsnapshot.mp hcause⟩
      · rintro ⟨-, hservices⟩
        exact Checks.mapError_eq_error_iff.mpr ⟨_, hsnapshot.mpr hservices, rfl⟩

/-- A configuration that is refused for a cause has services that are refused. -/
theorem refusesServices_of_buildConfiguration (h : a.buildConfiguration = .error error)
    (hcause : error.cause? = some e) : a.RefusesServices e := by
  refine buildConfiguration_eq_unbuildable_iff.mp ?_
  rw [h]
  unfold buildConfiguration at h
  split at h
  · cases h
    cases hcause
  · obtain ⟨cause, -, rfl⟩ := Checks.mapError_eq_error_iff.mp h
    cases cause with
    | argument refusal => cases hcause; rfl
    | incomplete part => cases hcause

/-! ## Filters -/

/-- The stage of a configuration is always there: its parts were checked with the snapshot. -/
theorem build_of_buildConfiguration {c : Configuration} (h : a.buildConfiguration = .ok c) :
    ∃ s, Stage.ofConfiguration c = .ok s ∧ a.build = a.finish s := by
  obtain ⟨options, -, hsnapshot⟩ := exists_snapshot_of_buildConfiguration h
  obtain ⟨s, hs⟩ := Stage.exists_of_check (Options.eq_of_snapshot hsnapshot).1
  refine ⟨s, hs, ?_⟩
  unfold build
  rw [h]
  simp only [hs]

/-- Of what a hook comes to, only a refusal of its own leaves the build as a refusal. -/
theorem postProcess_eq_argument_iff {s : Stage} {processor : PostProcessor} {run : HookRun} :
    postProcess s processor run = .error (.argument e) ↔ run.outcome = .error (.refused e) := by
  unfold postProcess
  cases run.outcome with
  | error obstacle =>
      cases obstacle with
      | refused refusal => simp [BuildFailure.ofObstacle]
      | fault f => simp [BuildFailure.ofObstacle]
  | ok replacement =>
      cases hfilter : replacement.asFilter s with
      | error typeName => simp [hfilter]
      | ok filter => simp [hfilter]

/-- An object that is no filter is refused without a cause. -/
theorem cause?_of_postProcess {s : Stage} {processor : PostProcessor} {run : HookRun}
    (h : postProcess s processor run = .error (.configuration error)) : error.cause? = none := by
  unfold postProcess at h
  split at h
  · rename_i obstacle _
    cases obstacle with
    | refused refusal => cases h
    | fault f => cases h
  split at h
  · cases h
    rfl
  · cases h

/-- The end of a build is a refusal exactly if its hook refused an argument. -/
theorem finish_eq_argument_iff {s : Stage} :
    (a.finish s).result = .error (.argument e) ↔
      ∃ processor, a.processor = some processor ∧
        (processor.act s).outcome = .error (.refused e) := by
  unfold finish
  cases a.processor with
  | none => exact ⟨nofun, nofun⟩
  | some processor =>
      refine Iff.trans postProcess_eq_argument_iff ⟨fun h => ⟨processor, rfl, h⟩, ?_⟩
      rintro ⟨_, hsame, h⟩
      cases hsame
      exact h

/-- What else goes wrong once the stage is there has no refusal behind it. -/
theorem cause?_of_finish {s : Stage} (h : (a.finish s).result = .error (.configuration error)) :
    error.cause? = none := by
  unfold finish at h
  cases hprocessor : a.processor with
  | none =>
      rw [hprocessor] at h
      cases h
  | some processor =>
      rw [hprocessor] at h
      exact cause?_of_postProcess h

/-! ## Every refusal is wrapped -/

/-- The error with which an operation wraps a refusal. -/
def Operation.wrapped (e : InvalidArgument) : Operation → ConfigurationError
  | .make (.logout _) => .rejected .logout e
  | .make _ => .rejected .security e
  | .configuration => .unbuildable (.argument e)
  | .build => .unbuildable (.argument e)

theorem Operation.cause?_wrapped (operation : Operation) (e : InvalidArgument) :
    (operation.wrapped e).cause? = some e := by
  cases operation with
  | make call =>
      cases call with
      | _ => rfl
  | configuration => rfl
  | build => rfl

/-- The calls hand on the details of a refusal, the operations that take a snapshot do not. -/
theorem Operation.details_wrapped (operation : Operation) (e : InvalidArgument) :
    (operation.wrapped e).details =
      if operation.call?.isSome then e.details else .object [] := by
  cases operation with
  | make call =>
      cases call with
      | _ => rfl
  | configuration => rfl
  | build => rfl

/-- An operation that comes to a refusal fails with the error that wraps it. -/
theorem failure?_of_refuses (h : operation.Refuses a e) :
    operation.failure? a = some (.configuration (operation.wrapped e)) := by
  cases h with
  | customization h =>
      -- the operation is a call here; in the last two cases it is a snapshot
      have hobstacle := Options.obstacle_customize_eq_refused_iff.mpr h
      unfold Operation.failure? apply
      simp only [hobstacle]
      rfl
  | services => rfl
  | loginPath => rfl
  | publisher => rfl
  | processor => rfl
  | configuration h =>
      unfold Operation.failure?
      rw [buildConfiguration_eq_unbuildable_iff.mpr h]
      rfl
  | build h =>
      unfold Operation.failure? build
      rw [buildConfiguration_eq_unbuildable_iff.mpr h]
      rfl

/-- A call that fails for a cause came to a refusal. -/
theorem refuses_of_failure_apply {call : Call}
    (h : (a.apply call).failure = some (.configuration error)) (hcause : error.cause? = some e) :
    (Operation.make call).Refuses a e := by
  cases call with
  | logout steps =>
      obtain ⟨obstacle, hobstacle, heq⟩ := Option.map_eq_some_iff.mp h
      cases obstacle with
      | refused refusal =>
          cases heq
          cases hcause
          exact .customization (Options.obstacle_customize_eq_refused_iff.mp hobstacle)
      | fault f => cases heq
  | csrf enabled repository => cases h
  | rememberMe services =>
      cases services with
      | none => cases h; cases hcause; exact .services
      | some services => cases h
  | loginPath path =>
      cases path with
      | none => cases h; cases hcause; exact .loginPath
      | some path => cases h
  | eventPublisher publisher =>
      cases publisher with
      | none => cases h; cases hcause; exact .publisher
      | some publisher => cases h
  | postProcessor candidate =>
      cases candidate with
      | hook processor => cases h
      | foreign value =>
          cases value with
          | nothing => cases h; cases hcause; exact .processor
          | text s => cases h; cases hcause
          | object => cases h; cases hcause

/-- A build ends as the taking of its configuration does, or else in what is done with its
stage. -/
theorem build_result_cases (a : Assembly) :
    (∃ error, a.buildConfiguration = .error error ∧
      a.build.result = .error (.configuration error)) ∨
    ∃ c s, a.buildConfiguration = .ok c ∧ Stage.ofConfiguration c = .ok s ∧
      a.build.result = (a.finish s).result := by
  cases hconfiguration : a.buildConfiguration with
  | error error =>
      refine Or.inl ⟨error, rfl, ?_⟩
      unfold build
      rw [hconfiguration]
  | ok c =>
      obtain ⟨s, hs, hbuild⟩ := build_of_buildConfiguration hconfiguration
      exact Or.inr ⟨c, s, rfl, hs, by rw [hbuild]⟩

/-- An operation that fails for a cause came to a refusal. -/
theorem refuses_of_failure? (h : operation.failure? a = some (.configuration error))
    (hcause : error.cause? = some e) : operation.Refuses a e := by
  cases operation with
  | make call =>
      obtain ⟨failure, hfailure, heq⟩ := Option.map_eq_some_iff.mp h
      cases failure with
      | configuration error =>
          cases heq
          exact refuses_of_failure_apply hfailure hcause
      | fault f => cases heq
  | configuration =>
      obtain ⟨error, hfailed, heq⟩ := failure?_configuration_eq_some_iff.mp h
      cases heq
      exact .configuration (refusesServices_of_buildConfiguration hfailed hcause)
  | build =>
      have hbuild := failure?_build_eq_some_iff.mp h
      rcases build_result_cases a with ⟨error', hfailed, hresult⟩ | ⟨c, s, -, -, hresult⟩
      · cases hresult.symm.trans hbuild
        exact .build (refusesServices_of_buildConfiguration hfailed hcause)
      · have hnone := cause?_of_finish (hresult.symm.trans hbuild)
        cases hnone.symm.trans hcause

/-- A refusal leaves an operation as it is exactly if the operation is a build whose hook refused an
argument. -/
theorem failure?_eq_argument_iff :
    operation.failure? a = some (.argument e) ↔ operation = .build ∧ a.HookRefuses e := by
  cases operation with
  | make call =>
      refine ⟨fun h => ?_, nofun⟩
      obtain ⟨failure, -, heq⟩ := Option.map_eq_some_iff.mp h
      cases failure with
      | configuration error => cases heq
      | fault f => cases heq
  | configuration =>
      refine ⟨fun h => ?_, nofun⟩
      obtain ⟨error, -, heq⟩ := failure?_configuration_eq_some_iff.mp h
      cases heq
  | build =>
      rw [failure?_build_eq_some_iff]
      rcases build_result_cases a with ⟨error, hfailed, hresult⟩ | ⟨c, s, hc, hs, hresult⟩
      · -- without a configuration no hook is run
        rw [hresult]
        refine ⟨nofun, ?_⟩
        rintro ⟨-, c, s, processor, hc, -⟩
        cases hc.symm.trans hfailed
      · rw [hresult, finish_eq_argument_iff]
        constructor
        · rintro ⟨processor, hprocessor, hrefused⟩
          exact ⟨rfl, c, s, processor, hc, hs, hprocessor, hrefused⟩
        · rintro ⟨-, c', s', processor, hc', hs', hprocessor, hrefused⟩
          cases hc.symm.trans hc'
          cases hs.symm.trans hs'
          exact ⟨processor, hprocessor, hrefused⟩

/-! ## Settings -/

/-- Calls that are made up to the first failure fail as that call does, in the assembly that those
ahead of it left. -/
theorem exists_failure_of_applyUntilError {calls : List Call} {failure : CallFailure}
    (h : (a.applyUntilError calls).failure = some failure) :
    ∃ before call after, calls = before ++ call :: after ∧
      ((a.applyAll before).apply call).failure = some failure := by
  induction calls generalizing a with
  | nil => cases h
  | cons call rest ih =>
      unfold applyUntilError at h
      simp only at h
      cases hcall : (a.apply call).failure with
      | some first =>
          rw [hcall] at h
          simp only at h
          exact ⟨[], call, rest, rfl, h⟩
      | none =>
          rw [hcall] at h
          obtain ⟨before, later, after, rfl, hlater⟩ := ih h
          exact ⟨call :: before, later, after, rfl, hlater⟩

/-- How refused arguments surface, whatever was collected before.  A refusal leaves an operation
unwrapped exactly if the operation is a build and the hook itself refused the argument.  An
operation comes to any other refusal iff it fails with a configuration error whose cause the refusal
is; the words of the error end with those of the cause.  A call reports the details of the cause,
which name the argument; an operation that takes a snapshot reports none.  Settings fail as one of
their calls does. -/
theorem failure?_refused (a : Assembly) (operation : Operation) :
    (∀ e, operation.failure? a = some (.argument e) ↔ operation = .build ∧ a.HookRefuses e) ∧
    (∀ e, operation.Refuses a e ↔
      ∃ error, operation.failure? a = some (.configuration error) ∧ error.cause? = some e) ∧
    (∀ {error e}, operation.failure? a = some (.configuration error) → error.cause? = some e →
      (∃ introduction, error.message = introduction ++ e.message) ∧
      (LogoutError.configuration error).report.details =
        if operation.call?.isSome then e.details else .object []) ∧
    ∀ {settings store failure}, (ofSettings settings store).failure = some failure →
      ∃ before call after, settings.assemblyCalls store = before ++ call :: after ∧
        (Operation.make call).failure? (initial.applyAll before) = some failure.raised := by
  refine ⟨fun e => failure?_eq_argument_iff, fun e => ⟨?_, ?_⟩, ?_, ?_⟩
  -- a refusal and an error with it as its cause are the same thing
  · intro hrefuses
    exact ⟨_, failure?_of_refuses hrefuses, operation.cause?_wrapped e⟩
  · rintro ⟨error, hfailure, hcause⟩
    exact refuses_of_failure? hfailure hcause
  -- so the error is the one that wraps the refusal, and its words and details are known
  · intro error e hfailure hcause
    have hwrapped := failure?_of_refuses (refuses_of_failure? hfailure hcause)
    refine ⟨ConfigurationError.message_of_cause? hcause, ?_⟩
    cases hfailure.symm.trans hwrapped
    exact operation.details_wrapped e
  · intro settings store failure hfailure
    obtain ⟨before, call, after, hcalls, hfailed⟩ := exists_failure_of_applyUntilError hfailure
    exact ⟨before, call, after, hcalls, congrArg (Option.map CallFailure.raised) hfailed⟩

/-- A customization whose second call refuses its handler. -/
def sampleRefusing : List Options.Step :=
  [.ok (.setPath (some "/bye")), .ok (.addHandler (.one (.foreign .object))),
    .ok (.setSuccessUrl none)]

theorem failure?_refused_sample :
    ∃ error, (Operation.make (.logout sampleRefusing)).failure? initial =
        some (.configuration error) ∧
      (∃ introduction, error.message =
        introduction ++ "object must define async logout(request, response, principal)") ∧
      (LogoutError.configuration error).report.details =
        .object [("argument", .string "handler")] := by
  obtain ⟨-, hrefuses, hwrapped, -⟩ :=
    failure?_refused initial (.make (.logout sampleRefusing))
  have hsecond : (Operation.make (.logout sampleRefusing)).Refuses initial
      { argument := "handler", fault := .notAHandler "object" } :=
    .customization (.later rfl (.call rfl _))
  obtain ⟨error, hfailure, hcause⟩ := (hrefuses _).mp hsecond
  obtain ⟨hmessage, hdetails⟩ := hwrapped hfailure hcause
  exact ⟨error, hfailure, hmessage, hdetails⟩

/-- A hook that comes to a chain with nothing in it where a handler belongs. -/
def chainingHook : PostProcessor where
  typeName := "Chaining"
  act _ :=
    { calls := []
      outcome := (Handler.composite [.one (.foreign .nothing)]).mapError Obstacle.refused |>.map
        fun _ => .itself }

/-- Two refusals that a build does not hand on as it should.  Remember-me services that lack their
operation are named in the cause of the error and not in its report, and a refusal of the hook
leaves the build without any error around it. -/
theorem refusals_lost_by_build :
    (∃ error e, (initial.applyAll [.rememberMe (some .unawaited), .logout []]).build.result =
        .error (.configuration error) ∧
      error.cause? = some e ∧ e.argument = "remember_me_services" ∧
      (LogoutError.configuration error).report.details ≠ e.details) ∧
    ∃ e, (initial.applyAll [.postProcessor (.hook chainingHook), .logout []]).build.result =
      .error (.argument e) := by
  refine ⟨⟨_, _, rfl, rfl, rfl, ?_⟩, _, rfl⟩
  intro h
  cases h

end Assembly

end SignOut
