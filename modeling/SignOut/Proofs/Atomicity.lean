import SignOut.Proofs.Script

/-!
# Calls that fail

Options are edited in place, and nothing is ever undone: what an edit has changed by the time it
ends early stays changed.  The calls on the options are such edits, and yet a refused call leaves
the options as they were, because every call makes all its checks before its only change.  A
customization is several of these edits.  One that ends early leaves what the calls ahead of the
refused one have made of the options, and no trace of the refused call or of those behind it.  The
other calls on an assembly change nothing when they fail.  Therefore a history can be cleared of all
that failed in it, and the assembly that it leaves stays the same.
-/

namespace SignOut

namespace Options

/-! ## Edits -/

/-- An edit of the options in place.  Where it ends early, the options stay as they are by then. -/
abbrev Edit := ExceptT Obstacle (StateM Options)

namespace Edit

variable {α : Type}

/-- How an edit ends, and the options that it leaves. -/
def exec (edit : Edit α) (c : Options) : Except Obstacle α × Options :=
  StateT.run (ExceptT.run edit) c

/-- Go on with what a check accepts; a refusal ends the edit. -/
def check : Except InvalidArgument α → Edit α
  | .ok given => pure given
  | .error refusal => throw (.refused refusal)

/-- Append a handler to the chain. -/
def append (handler : Handler) : Edit Unit := do
  let handler ← check (Handler.requireFit handler "handler")
  modify fun c => { c with handlers := c.handlers ++ [handler] }

/-- Make a call, with its checks and its changes in order. -/
def make : Call → Edit Unit
  | .setPath path => do
      let path ← check (requirePath path)
      if (← get).path.isNone then modify fun c => { c with path := some path }
  | .setRequestMatcher matcher => do
      let matcher ← check (requireMatcher matcher)
      modify fun c => { c with matcher := some matcher }
  | .addHandler handler => append handler
  | .deleteCookies names => do append (← check (Handler.ofCookies names (some "/") none))
  | .addSessionStore removal => do
      let removal ← check (InvalidArgument.require removal "redis_client")
      append (← check (Handler.ofStore true removal))
  | .invalidateSession enabled => modify fun c => { c with invalidateSession := enabled }
  | .clearAuthentication enabled => modify fun c => { c with clearAuthentication := enabled }
  | .addSuccessRoute handler matcher => do
      let handler ← check (Success.requireFit handler "handler")
      let matcher ← check (requireMatcher matcher)
      modify fun c => { c with routes := c.routes ++ [(matcher, handler)] }
  | .setDefaultSuccessHandler handler => do
      let handler ← check (Success.requireFit handler "handler")
      modify fun c => { c with fallback := some handler }
  | .setSuccessUrl url => do
      let url ← check (InvalidArgument.require url "url")
      modify fun c => { c with successUrl := some url }

/-- A step of a customization. -/
def step : Step → Edit Unit
  | .ok call => make call
  | .error obstacle => throw obstacle

/-- An edit has the outcome of a call: the options that the call leads to, or else its refusal and
the options as they were. -/
def Realizes (edit : Edit Unit) (c : Options) (outcome : Except InvalidArgument Options) : Prop :=
  edit.exec c =
    match outcome with
    | .ok next => (.ok (), next)
    | .error refusal => (.error (.refused refusal), c)

variable {c : Options}

theorem realizes_modify (change : Options → Options) :
    Realizes (modify change) c (.ok (change c)) := rfl

/-- A check ahead of an edit touches nothing. -/
theorem realizes_check {given : Except InvalidArgument α} {edit : α → Edit Unit}
    {next : α → Except InvalidArgument Options} (h : ∀ a, Realizes (edit a) c (next a)) :
    Realizes (check given >>= edit) c (given >>= next) := by
  cases given with
  | ok a => exact h a
  | error refusal => rfl

theorem realizes_append (handler : Handler) : Realizes (append handler) c (c.addHandler handler) :=
  realizes_check fun _ => realizes_modify _

/-- A call edits the options as it should: it checks first and changes them at most once. -/
theorem realizes_make (call : Call) : Realizes (make call) c (c.apply call) := by
  cases call with
  | setPath path =>
      refine realizes_check fun path => ?_
      show Edit.exec (do
        if (← get).path.isNone then modify fun c => { c with path := some path }) c =
          (.ok (), { c with path := some (c.path.getD path) })
      obtain ⟨given, _⟩ := c
      cases given with
      | none => rfl
      | some inEffect => rfl
  | setRequestMatcher matcher => exact realizes_check fun _ => realizes_modify _
  | addHandler handler => exact realizes_append handler
  | deleteCookies names => exact realizes_check fun _ => realizes_append _
  | addSessionStore removal =>
      exact realizes_check fun _ => realizes_check fun _ => realizes_append _
  | invalidateSession enabled => exact realizes_modify _
  | clearAuthentication enabled => exact realizes_modify _
  | addSuccessRoute handler matcher =>
      exact realizes_check fun _ => realizes_check fun _ => realizes_modify _
  | setDefaultSuccessHandler handler => exact realizes_check fun _ => realizes_modify _
  | setSuccessUrl url => exact realizes_check fun _ => realizes_modify _

/-- A call that fails is refused, and the options are as they were. -/
theorem exec_make_eq_error_iff {call : Call} {c' : Options} {obstacle : Obstacle} :
    exec (make call) c = (.error obstacle, c') ↔
      c' = c ∧ ∃ refusal, obstacle = .refused refusal ∧ c.apply call = .error refusal := by
  have hmake : exec (make call) c = _ := realizes_make call
  rw [hmake]
  cases c.apply call with
  | ok next =>
      constructor
      · intro h
        cases h
      · rintro ⟨-, refusal, -, h⟩
        cases h
  | error refusal =>
      constructor
      · intro h
        cases h
        exact ⟨rfl, refusal, rfl, rfl⟩
      · rintro ⟨rfl, refusal, rfl, h⟩
        cases h
        rfl

/-- An edit goes on from where another one ended, or ends early where that did. -/
theorem exec_bind {β : Type} (edit : Edit α) (next : α → Edit β) (c : Options) :
    exec (edit >>= next) c =
      match exec edit c with
      | (.ok a, c') => exec (next a) c'
      | (.error obstacle, c') => (.error obstacle, c') := by
  show (StateT.run (ExceptT.run edit) c >>= fun p =>
    StateT.run (ExceptT.bindCont next p.1) p.2) = _
  unfold exec
  rcases StateT.run (ExceptT.run edit) c with ⟨result, c'⟩
  cases result with
  | ok a => rfl
  | error obstacle => rfl

end Edit

/-- How a customization ends. -/
def Customized.ending (after : Customized) : Except Obstacle Unit :=
  match after.obstacle with
  | none => .ok ()
  | some obstacle => .error obstacle

variable {c c' : Options} {before after : List Step} {s : Step} {obstacle : Obstacle}

/-- A customization edits the options step after step. -/
theorem exec_forM_step (c : Options) (steps : List Step) :
    Edit.exec (steps.forM Edit.step) c =
      ((c.customize steps).ending, (c.customize steps).options) := by
  induction steps generalizing c with
  | nil => rfl
  | cons first rest ih =>
      refine (Edit.exec_bind (Edit.step first) _ c).trans ?_
      cases first with
      | error obstacle => rfl
      | ok call =>
          have hmake : Edit.exec (Edit.step (.ok call)) c = _ := Edit.realizes_make call
          rw [hmake]
          unfold customize
          cases c.apply call with
          | error refusal => rfl
          | ok next => exact ih next

/-! ## Customizations that end early -/

theorem customize_cons_of_ok {call : Call} {next : Options} (h : c.apply call = .ok next)
    (rest : List Step) :
    c.customize (.ok call :: rest) =
      { next.customize rest with
        records := c.remarks call ++ (next.customize rest).records } := by
  rw [customize, h]

theorem customize_cons_of_refused {call : Call} {refusal : InvalidArgument}
    (h : c.apply call = .error refusal) (rest : List Step) :
    c.customize (.ok call :: rest) =
      { options := c, records := c.remarks call, obstacle := some (.refused refusal) } := by
  rw [customize, h]

/-- Steps behind a customization that did not end early go on from what it left. -/
theorem customize_append (h : (c.customize before).obstacle = none) (after : List Step) :
    (c.customize (before ++ after)).options =
        ((c.customize before).options.customize after).options ∧
      (c.customize (before ++ after)).obstacle =
        ((c.customize before).options.customize after).obstacle := by
  induction before generalizing c with
  | nil => exact ⟨rfl, rfl⟩
  | cons first rest ih =>
      cases first with
      | error obstacle => cases h
      | ok call =>
          rw [List.cons_append]
          cases happly : c.apply call with
          | error refusal =>
              rw [customize_cons_of_refused happly] at h
              cases h
          | ok next =>
              rw [customize_cons_of_ok happly] at h ⊢
              rw [customize_cons_of_ok happly]
              exact ih h

/-- A customization that starts with a step that fails ends there and changes nothing. -/
theorem customize_cons_of_error (h : Edit.exec (Edit.step s) c = (.error obstacle, c'))
    (after : List Step) :
    (c.customize (s :: after)).options = c ∧
      (c.customize (s :: after)).obstacle = some obstacle := by
  cases s with
  | error given =>
      cases h
      exact ⟨rfl, rfl⟩
  | ok call =>
      obtain ⟨-, refusal, rfl, hrefused⟩ := Edit.exec_make_eq_error_iff.mp h
      rw [customize_cons_of_refused hrefused]
      exact ⟨rfl, rfl⟩

/-- A customization ends early with its first step that fails, and leaves what the steps ahead of it
have left. -/
theorem customize_of_error (hbefore : Edit.exec (before.forM Edit.step) c = (.ok (), c'))
    {c'' : Options} (hfailed : Edit.exec (Edit.step s) c' = (.error obstacle, c''))
    (after : List Step) :
    (c.customize before).options = c' ∧ (c.customize before).obstacle = none ∧
      (c.customize (before ++ s :: after)).options = c' ∧
      (c.customize (before ++ s :: after)).obstacle = some obstacle := by
  have hended := (exec_forM_step c before).symm.trans hbefore
  rw [Prod.mk.injEq] at hended
  obtain ⟨hending, hoptions⟩ := hended
  have hnone : (c.customize before).obstacle = none := by
    unfold Customized.ending at hending
    split at hending
    · assumption
    · cases hending
  obtain ⟨hthrough, hobstacle⟩ := customize_append hnone (s :: after)
  obtain ⟨hstay, hstop⟩ := customize_cons_of_error hfailed after
  rw [hthrough, hobstacle, hoptions]
  exact ⟨rfl, hnone, hstay, hstop⟩

/-- The accepted calls of a customization make the same of the options as all of it, and none of
them fails. -/
theorem customize_accepted (c : Options) (steps : List Step) :
    (c.customize ((accepted steps).map Except.ok)).options = (c.customize steps).options ∧
      (c.customize ((accepted steps).map Except.ok)).obstacle = none := by
  induction steps generalizing c with
  | nil => exact ⟨rfl, rfl⟩
  | cons first rest ih =>
      cases first with
      | error obstacle => exact ⟨rfl, rfl⟩
      | ok call =>
          cases happly : c.apply call with
          | error refusal =>
              have hrefused : call.isAccepted = false := by
                rw [← isOk_apply c, happly]
                rfl
              rw [accepted, hrefused, customize_cons_of_refused happly]
              exact ⟨rfl, rfl⟩
          | ok next =>
              have haccepted : call.isAccepted = true := by
                rw [← isOk_apply c, happly]
                rfl
              rw [accepted, if_pos haccepted, List.map_cons, customize_cons_of_ok happly,
                customize_cons_of_ok happly]
              exact ih next

end Options

namespace Assembly

variable {a : Assembly} {call : Call}

/-! ## Calls on an assembly -/

/-- A call that does not customize the options changes nothing if it fails. -/
theorem assembly_apply_of_failure (hcall : call.isLogout = false)
    (h : (a.apply call).failure ≠ none) : (a.apply call).assembly = a := by
  have hgiven : ∀ {α : Type} (value : Option α) (argument : String) (update : α → Assembly),
      (a.setGiven value argument update).failure ≠ none →
        (a.setGiven value argument update).assembly = a := by
    intro α value argument update h
    cases value with
    | none => rfl
    | some value => exact absurd rfl h
  cases call with
  | logout steps => cases hcall
  | csrf enabled repository => exact absurd rfl h
  | rememberMe services => exact hgiven services _ _ h
  | loginPath path => exact hgiven path _ _ h
  | eventPublisher publisher => exact hgiven publisher _ _ h
  | postProcessor candidate =>
      cases candidate with
      | hook processor => exact absurd rfl h
      | foreign value =>
          cases value with
          | _ => rfl

/-- Whatever fails, fails as a whole.  A call on the options that ends early leaves them as they
were, although it edits them in place, and so does every other call on an assembly.  A customization
that ends early with a refused step fails with that refusal, and from then on the assembly is the
one that the steps ahead of the refused one leave: the sign-out is enabled, and all that is built
later is the same. -/
theorem failure_is_atomic :
    (∀ (c c' : Options) (call : Options.Call) (obstacle : Obstacle),
      Options.Edit.exec (.make call) c = (.error obstacle, c') ↔
        c' = c ∧ ∃ refusal, obstacle = .refused refusal ∧ c.apply call = .error refusal) ∧
    (∀ (a : Assembly) (call : Call), call.isLogout = false → (a.apply call).failure ≠ none →
      (a.apply call).assembly = a) ∧
    ∀ (a : Assembly) (before after : List Options.Step) (step : Options.Step) (c c' : Options)
      (refusal : InvalidArgument),
      Options.Edit.exec (before.forM Options.Edit.step) (a.options.getD .initial) = (.ok (), c) →
      Options.Edit.exec (Options.Edit.step step) c = (.error (.refused refusal), c') →
        (a.apply (.logout before)).failure = none ∧
        (a.apply (.logout before)).assembly = { a with options := some c } ∧
        (a.apply (.logout (before ++ step :: after))).failure =
          some (.configuration (.rejected .logout refusal)) ∧
        (a.apply (.logout (before ++ step :: after))).assembly = { a with options := some c } ∧
        ∀ later, (a.applyAll (.logout (before ++ step :: after) :: later)).build =
          (a.applyAll (.logout before :: later)).build := by
  refine ⟨fun c c' call obstacle => Options.Edit.exec_make_eq_error_iff,
    fun a call => assembly_apply_of_failure, ?customization⟩
  case customization =>
    intro a before after step c c' refusal hbefore hrefused
    obtain ⟨hkept, hnone, hstay, hstop⟩ := Options.customize_of_error hbefore hrefused after
    have hprior : (a.apply (.logout before)).assembly = { a with options := some c } := by
      show { a with options := some _ } = _
      rw [hkept]
    have hfailed : (a.apply (.logout (before ++ step :: after))).assembly =
        { a with options := some c } := by
      show { a with options := some _ } = _
      rw [hstay]
    refine ⟨congrArg (Option.map CallFailure.ofObstacle) hnone, hprior,
      congrArg (Option.map CallFailure.ofObstacle) hstop, hfailed, fun later => ?_⟩
    show ((a.apply _).assembly.applyAll later).build = ((a.apply _).assembly.applyAll later).build
    rw [hfailed, hprior]

/-- A route whose success handler is fit and whose matcher is none. -/
def unmatchedRoute : Options.Call :=
  .addSuccessRoute (.answer (.status (some 204))) (.atom (.foreign .object))

/-- A customization whose second step is refused at its second check. -/
def sampleUnmatched : List Options.Step :=
  [.ok (.setPath (some "/bye")), .ok unmatchedRoute, .ok (.setSuccessUrl (some "/home"))]

/-- The sample has set the path and nothing else, and a login path that is not given is not set. -/
theorem failure_is_atomic_sample :
    (initial.apply (.logout sampleUnmatched)).assembly =
      { initial with options := some { Options.initial with path := some "/bye" } } ∧
    (initial.apply (.logout sampleUnmatched)).failure =
      some (.configuration (.rejected .logout
        { argument := "matcher", fault := .notAMatcher "object" })) ∧
    (initial.apply (.loginPath none)).assembly = initial := by
  obtain ⟨-, -, hfailure, hassembly, -⟩ :=
    failure_is_atomic.2.2 initial [.ok (.setPath (some "/bye"))]
      [.ok (.setSuccessUrl (some "/home"))] (.ok unmatchedRoute) _ _ _ rfl rfl
  refine ⟨hassembly, hfailure, failure_is_atomic.2.1 initial (.loginPath none) rfl ?_⟩
  intro h
  cases h

/-! ## Histories without failures -/

/-- What of a call takes effect: of a customization all accepted calls, of any other call the whole
call, unless it fails. -/
def Call.effect (call : Call) : Option Call :=
  match call with
  | .logout steps => some (.logout ((Options.accepted steps).map .ok))
  | _ => if (initial.apply call).failure.isSome then none else some call

/-- Whether a call fails that does not customize the options depends on the call alone. -/
theorem failure_apply_eq (a b : Assembly) (hcall : call.isLogout = false) :
    (a.apply call).failure = (b.apply call).failure := by
  have hgiven : ∀ {α : Type} (value : Option α) (argument : String) (update update' : α → Assembly),
      (a.setGiven value argument update).failure = (b.setGiven value argument update').failure := by
    intro α value argument update update'
    cases value with
    | none => rfl
    | some value => rfl
  cases call with
  | logout steps => cases hcall
  | csrf enabled repository => rfl
  | rememberMe services => exact hgiven services _ _ _
  | loginPath path => exact hgiven path _ _ _
  | eventPublisher publisher => exact hgiven publisher _ _ _
  | postProcessor candidate =>
      cases candidate with
      | hook processor => rfl
      | foreign value =>
          cases value with
          | _ => rfl

/-- A call comes to what of it takes effect, and that does not fail. -/
theorem effect_cases (a : Assembly) (call : Call) :
    (call.effect = none ∧ (a.apply call).assembly = a) ∨
      ∃ effective, call.effect = some effective ∧ (a.apply effective).failure = none ∧
        (a.apply effective).assembly = (a.apply call).assembly := by
  cases hcall : call.isLogout with
  | true =>
      cases call with
      | logout steps =>
          obtain ⟨hoptions, hnone⟩ := (a.options.getD .initial).customize_accepted steps
          refine Or.inr ⟨_, rfl, congrArg (Option.map CallFailure.ofObstacle) hnone, ?_⟩
          show { a with options := some _ } = { a with options := some _ }
          rw [hoptions]
      | _ => cases hcall
  | false =>
      have heffect : call.effect = if (a.apply call).failure.isSome then none else some call := by
        rw [failure_apply_eq a initial hcall]
        cases call with
        | logout steps => cases hcall
        | _ => rfl
      cases hfailure : (a.apply call).failure with
      | some failure =>
          rw [hfailure] at heffect
          refine Or.inl ⟨heffect, assembly_apply_of_failure hcall ?_⟩
          rw [hfailure]
          exact nofun
      | none =>
          rw [hfailure] at heffect
          exact Or.inr ⟨call, heffect, hfailure, rfl⟩

/-- Behind a call that did not fail, a history goes on from what that left. -/
theorem failure_applyUntilError_cons (h : (a.apply call).failure = none) (rest : List Call) :
    (a.applyUntilError (call :: rest)).failure =
      ((a.apply call).assembly.applyUntilError rest).failure := by
  rw [applyUntilError, h]

/-- All that failed in a history can be left out of it: the history of what took effect leaves the
same assembly, and nothing in it fails. -/
theorem applyAll_effect (a : Assembly) (calls : List Call) :
    a.applyAll (calls.filterMap Call.effect) = a.applyAll calls ∧
      (a.applyUntilError (calls.filterMap Call.effect)).failure = none := by
  induction calls generalizing a with
  | nil => exact ⟨rfl, rfl⟩
  | cons call rest ih =>
      rcases effect_cases a call with ⟨hnone, hsame⟩ | ⟨effective, hsome, hmade, hsame⟩
      · rw [List.filterMap_cons_none hnone]
        show _ = (a.apply call).assembly.applyAll rest ∧ _
        rw [hsame]
        exact ih a
      · rw [List.filterMap_cons_some hsome]
        rw [failure_applyUntilError_cons hmade]
        unfold applyAll
        rw [hsame]
        exact ih (a.apply call).assembly

end Assembly

end SignOut
