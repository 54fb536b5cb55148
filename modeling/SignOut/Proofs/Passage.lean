import SignOut.Gate
import SignOut.Proofs.Bond

/-!
# Requests that pass a gate

A gate either hands a request on to what lies behind it or keeps it to itself, and its request
matcher alone decides which.  What lies behind a gate is a run of any kind, so both outcomes are
statements about all of these at once: to hand a request on is to end as that run does, whatever it
is, and to keep a request is to end in the same way whatever it is.  A request that is handed on
arrives as it came: until then only the matcher was asked, which records calls at most, and neither
a handler nor a route nor a success handler was met.  Several gates that all decline a request hand
it on to the application as if none of them were there.
-/

namespace SignOut

/-! ## Resolvers -/

/-- What a resolver finds out about a request. -/
def Resolver.found (r : Request) : Resolver → Except Fault (Option Principal)
  | .signedIn => .ok r.principal?
  | .header name =>
      match r.header? name with
      | .ok value => .ok (value.map Principal.text)
      | .error run => .error (.unencodable run)

/-- A resolver looks at the request and leaves everything as it is. -/
theorem Resolver.exec_principal (resolver : Resolver) (e : Exchange) :
    Run.exec resolver.principal e = (resolver.found e.request, e) := by
  cases resolver with
  | signedIn => rfl
  | header name =>
      have hheader : Run.exec (Run.header? name) e =
          ((e.request.header? name).mapError Fault.unencodable, e) := by
        unfold Run.header?
        rw [Run.exec_bind_of_ok (Run.exec_request e)]
        cases e.request.header? name with
        | ok value => rfl
        | error run => rfl
      show Run.exec (Run.header? name >>= fun value => pure (value.map Principal.text)) e = _
      rw [Run.exec_bind, hheader]
      simp only [found]
      cases e.request.header? name with
      | ok value => rfl
      | error run => rfl

/-! ## Matchers -/

/-- The bond of two runs that record the same calls in two exchanges with the same request. -/
def Bond.calling {e₀ f₀ : Exchange} (hrequest : f₀.request = e₀.request) :
    Bond none none where
  Rel e f := ∃ own, e = { e₀ with calls := e₀.calls ++ own } ∧
    f = { f₀ with calls := f₀.calls ++ own }
  outline_eq := by
    rintro _ _ ⟨own, rfl, rfl⟩
    exact congrArg Request.outline hrequest
  recorded := by
    rintro calls _ _ ⟨own, rfl, rfl⟩
    refine ⟨own ++ calls none e₀.request, ?_, ?_⟩
    · simp
    · simp [hrequest]

/-- What a matcher answers to a request and which calls it records depend on the request alone. -/
theorem Matcher.exec_ask_of_request_eq {matcher : Matcher} {e f e₁ : Exchange}
    {answer : Except Fault Bool} (hrequest : f.request = e.request)
    (h : Run.exec matcher.ask e = (answer, e₁)) :
    ∃ asked, e₁ = { e with calls := e.calls ++ asked } ∧
      Run.exec matcher.ask f = (answer, { f with calls := f.calls ++ asked }) := by
  have hasks : (Bond.calling hrequest).Holds matcher.ask matcher.ask := by
    refine Bond.holds_ask fun part hpart => ?_
    obtain ⟨atom, -, rfl⟩ := Matcher.mem_toParts.mp hpart
    cases atom with
    | custom observer =>
        refine Bond.holds_observe ?_
        rintro _ _ ⟨own, rfl, rfl⟩
        exact congrArg observer.answer hrequest
    | _ => trivial
  have hstart : (Bond.calling hrequest).Rel e f :=
    ⟨[], by rw [List.append_nil], by rw [List.append_nil]⟩
  obtain ⟨f₁, hf, asked, rfl, rfl⟩ := hasks.exists_exec hstart h
  exact ⟨asked, rfl, hf⟩

/-! ## Gates -/

namespace Gate

/-- A gate hands a request on in an exchange: whatever lies behind it runs there, once, and the gate
ends as that does. -/
def PassesOn (gate : Gate) (e e₁ : Exchange) : Prop :=
  ∀ next, Run.exec (gate.dispatch next) e = Run.exec next e₁

/-- A gate keeps a request to itself: it ends in the same way whatever lies behind it, so that
nothing of that is run. -/
def Keeps (gate : Gate) (e : Exchange) (result : Except Fault Response) (e' : Exchange) : Prop :=
  ∀ next, Run.exec (gate.dispatch next) e = (result, e')

variable {gate : Gate} {principal : Option Principal} {e e₁ e' : Exchange}
  {result : Except Fault Response} {fault : Fault}

/-- A request is not both handed on and kept. -/
theorem PassesOn.not_keeps (h : gate.PassesOn e e₁) : ¬ gate.Keeps e result e' := by
  intro hkeeps
  have hanswers := (h (pure downstream)).symm.trans (hkeeps _)
  have hstops := (h (Run.stop .notAwaitable)).symm.trans (hkeeps _)
  cases hanswers
  cases hstops

/-- A request is handed on in one exchange only. -/
theorem PassesOn.unique {e₂ : Exchange} (h : gate.PassesOn e e₁) (h' : gate.PassesOn e e₂) :
    e₁ = e₂ :=
  congrArg Prod.snd ((h (pure downstream)).symm.trans (h' _))

/-- A gate whose resolver stops keeps the request, and nothing has happened. -/
theorem keeps_of_unresolved (hfound : gate.resolver.found e.request = .error fault) :
    gate.Keeps e (.error fault) e := by
  intro next
  refine Run.exec_bind_of_error ?_
  rw [Resolver.exec_principal, hfound]

/-- Behind its resolver, a gate lets its filter answer. -/
theorem exec_dispatch (hfound : gate.resolver.found e.request = .ok principal)
    (next : Run Response) :
    Run.exec (gate.dispatch next) e =
      Run.exec (do
        match ← gate.filter.process principal with
        | some response => return response
        | none => next) e := by
  refine Run.exec_bind_of_ok ?_
  rw [Resolver.exec_principal, hfound]

/-- A request for which the filter ends without an answer is handed on from there. -/
theorem passesOn_of_exec_process (hfound : gate.resolver.found e.request = .ok principal)
    (h : Run.exec (gate.filter.process principal) e = (.ok none, e₁)) : gate.PassesOn e e₁ := by
  intro next
  rw [exec_dispatch hfound]
  exact Run.exec_bind_of_ok h

/-- A request for which the filter does not end without an answer is kept, and the gate ends as the
filter does. -/
theorem keeps_of_exec_process (hfound : gate.resolver.found e.request = .ok principal)
    (h : Run.exec (gate.filter.process principal) e = (result.map some, e')) :
    gate.Keeps e result e' := by
  intro next
  rw [exec_dispatch hfound]
  cases result with
  | ok response => exact Run.exec_bind_of_ok h
  | error fault => exact Run.exec_bind_of_error h

end Gate

/-! ## Gates of stages -/

/-- The filter with another stage in the place of its own. -/
def StageFilter.withStage (s : Stage) : StageFilter → StageFilter
  | .stage _ => .stage s
  | .decorated _ => .decorated s

/-- A gate whose filter lets a stage answer. -/
structure StageGate where
  filter : StageFilter
  resolver : Resolver

namespace StageGate

/-- The gate among all gates. -/
def toGate (gate : StageGate) : Gate :=
  { filter := gate.filter, resolver := gate.resolver }

/-- The request matcher of a gate. -/
def matcher (gate : StageGate) : Matcher :=
  gate.filter.bare.configuration.matcher

/-- A gate with another stage in the place of its own. -/
def withStage (gate : StageGate) (s : Stage) : StageGate :=
  { gate with filter := gate.filter.withStage s }

theorem matcher_withStage (gate : StageGate) (s : Stage) :
    (gate.withStage s).matcher = s.configuration.matcher := by
  obtain ⟨filter, resolver⟩ := gate
  cases filter <;> rfl

theorem entered_withStage (gate : StageGate) (s : Stage) (e : Exchange) :
    (gate.withStage s).filter.entered e = gate.filter.entered e := by
  obtain ⟨filter, resolver⟩ := gate
  cases filter <;> rfl

variable {gate : StageGate} {principal : Option Principal} {e e₁ e' : Exchange}
  {answer : Except Fault Bool}

/-- A request that the matcher declines is handed on from where the matcher left the exchange. -/
theorem passesOn_of_declined (hfound : gate.resolver.found e.request = .ok principal)
    (h : Run.exec gate.matcher.ask (gate.filter.entered e) = (.ok false, e₁)) :
    gate.toGate.PassesOn e e₁ :=
  Gate.passesOn_of_exec_process hfound (StageFilter.exec_process_of_declined h)

/-- A request that the matcher selects is kept, whether the filter answers or stops. -/
theorem exists_keeps_of_selected (hfound : gate.resolver.found e.request = .ok principal)
    (h : Run.exec gate.matcher.ask (gate.filter.entered e) = (.ok true, e₁)) :
    ∃ result e', gate.toGate.Keeps e result e' ∧
      Run.exec (gate.filter.process principal) e = (result.map some, e') := by
  rcases hprocess : Run.exec (gate.filter.process principal) e with ⟨processed, e'⟩
  have hresult : ∃ result : Except Fault Response, processed = result.map some := by
    cases processed with
    | error fault => exact ⟨.error fault, rfl⟩
    | ok given =>
        cases given with
        | some response => exact ⟨.ok response, rfl⟩
        | none => exact absurd hprocess (StageFilter.actsOn_of_selected h e')
  obtain ⟨result, rfl⟩ := hresult
  exact ⟨result, e', Gate.keeps_of_exec_process hfound hprocess, rfl⟩

/-- A gate hands a request on iff its matcher declines it. -/
theorem passesOn_iff_declined (hfound : gate.resolver.found e.request = .ok principal) :
    gate.toGate.PassesOn e e₁ ↔
      Run.exec gate.matcher.ask (gate.filter.entered e) = (.ok false, e₁) := by
  refine ⟨fun hpasses => ?_, passesOn_of_declined hfound⟩
  rcases hasked : Run.exec gate.matcher.ask (gate.filter.entered e) with ⟨answer, e₂⟩
  cases answer with
  | error fault =>
      have hkeeps : gate.toGate.Keeps e (.error fault) e₂ :=
        Gate.keeps_of_exec_process hfound (StageFilter.exec_process_of_stopped hasked)
      exact absurd hkeeps hpasses.not_keeps
  | ok selected =>
      cases selected with
      | true =>
          obtain ⟨result, e', hkeeps, -⟩ := exists_keeps_of_selected hfound hasked
          exact absurd hkeeps hpasses.not_keeps
      | false => rw [hpasses.unique (passesOn_of_declined hfound hasked)]

/-- Where the matcher does not select a request, a filter meets nothing but parts of the matcher. -/
theorem mem_toParts_of_meets {part : Part} {e₂ : Exchange}
    (hasked : Run.exec gate.matcher.ask (gate.filter.entered e) = (answer, e₁))
    (hunselected : answer ≠ .ok true) (h : gate.filter.Meets principal e part e₂) :
    part ∈ gate.matcher.toParts := by
  have hselects : ∀ {path e₃},
      ¬ gate.filter.bare.configuration.Recognises (gate.filter.entered e) path e₃ := by
    intro path e₃ hrecognised
    cases hasked.symm.trans hrecognised.selected
    exact hunselected rfl
  cases h with
  | matcher hmatcher => exact Matcher.mem_toParts.mpr ⟨_, hmatcher.mem_leaves, rfl⟩
  | handler hrecognised hactions hbefore => exact absurd hrecognised hselects
  | success hrecognised hhandlers hsuccess => exact absurd hrecognised hselects

/-- A gate hands a request on as it came.  Up to there nothing has happened but that calls were
recorded, and these are the calls of the request matcher, the only part of the filter that was met:
with other handlers, routes and success handlers in the filter all would be the same. -/
structure HandsOn (gate : StageGate) (principal : Option Principal) (e e₁ : Exchange) :
    Prop where
  reached : gate.toGate.PassesOn e e₁
  untouched : ∃ asked, e₁ = { e with calls := e.calls ++ asked }
  matched : ∀ part e₂, gate.filter.Meets principal e part e₂ → part ∈ gate.matcher.toParts
  unhandled : ∀ s, s.configuration.matcher = gate.matcher →
    (gate.withStage s).toGate.PassesOn e e₁

/-- A gate whose stage is replaced by one with the same matcher hands on the same requests. -/
theorem passesOn_withStage (hfound : gate.resolver.found e.request = .ok principal)
    (hasked : Run.exec gate.matcher.ask (gate.filter.entered e) = (.ok false, e₁)) {s : Stage}
    (hmatcher : s.configuration.matcher = gate.matcher) :
    (gate.withStage s).toGate.PassesOn e e₁ := by
  have hresolved : (gate.withStage s).resolver.found e.request = .ok principal := hfound
  refine passesOn_of_declined hresolved ?_
  rw [matcher_withStage, entered_withStage, hmatcher, hasked]

/-- Until a matcher has answered, calls are recorded at most. -/
theorem eq_of_exec_ask
    (h : Run.exec gate.matcher.ask (gate.filter.entered e) = (answer, e₁)) :
    ∃ asked, e₁ = { e with calls := e.calls ++ asked } := by
  obtain ⟨asked, rfl⟩ := (Frame.asking.holds_ask gate.matcher).rel h
  cases hfilter : gate.filter with
  | stage s => exact ⟨asked, rfl⟩
  | decorated s => exact ⟨.decoratedProcess :: asked, by simp [StageFilter.entered]⟩

/-- What a gate does with a request is settled by the answer of its request matcher.  A request that
the matcher declines is handed on as it came, whatever lies behind the gate.  One that it selects is
kept, and the gate ends as its filter does, with a response or with a fault.  Where the matcher or
the resolver stops, the gate stops with it, and what lies behind the gate is not run either. -/
theorem dispatch_of_asked (gate : StageGate) (e : Exchange) :
    (∀ fault, gate.resolver.found e.request = .error fault →
      gate.toGate.Keeps e (.error fault) e) ∧
    ∀ principal, gate.resolver.found e.request = .ok principal →
      ∀ answer e₁, Run.exec gate.matcher.ask (gate.filter.entered e) = (answer, e₁) →
        (answer = .ok false → gate.HandsOn principal e e₁) ∧
        (answer = .ok true → ∃ result e', gate.toGate.Keeps e result e' ∧
          Run.exec (gate.filter.process principal) e = (result.map some, e')) ∧
        (∀ fault, answer = .error fault → gate.toGate.Keeps e (.error fault) e₁ ∧
          ∃ asked, e₁ = { e with calls := e.calls ++ asked }) ∧
        ∀ e₂, gate.toGate.PassesOn e e₂ ↔ answer = .ok false ∧ e₂ = e₁ := by
  refine ⟨?unresolved, ?resolved⟩
  case unresolved =>
    intro fault hfound
    have hresolver : gate.toGate.resolver.found e.request = .error fault := hfound
    exact Gate.keeps_of_unresolved hresolver
  intro principal hfound answer e₁ hasked
  refine ⟨?declined, ?selected, ?stopped, ?only⟩
  case declined =>
    rintro rfl
    refine ⟨passesOn_of_declined hfound hasked, eq_of_exec_ask hasked,
      fun part e₂ => mem_toParts_of_meets hasked (by simp), ?_⟩
    exact fun s hmatcher => passesOn_withStage hfound hasked hmatcher
  case selected =>
    rintro rfl
    exact exists_keeps_of_selected hfound hasked
  case stopped =>
    rintro fault rfl
    exact ⟨Gate.keeps_of_exec_process hfound (StageFilter.exec_process_of_stopped hasked),
      eq_of_exec_ask hasked⟩
  case only =>
    intro e₂
    rw [passesOn_iff_declined hfound, hasked, Prod.mk.injEq]
    exact and_congr_right fun _ => eq_comm

/-- A stage whose matcher asks a collaborator ahead of the path and the method. -/
def watchedStage : Stage :=
  let matcher : Matcher := .any [.atom (.probe "watch" (.ok false)),
    .atom (.logout defaultLogoutPath (allowedMethods true))]
  { configuration := { Stage.sampleConfiguration with matcher }
    handler := .many Stage.sampleConfiguration.handlers
    success := .routed Stage.sampleConfiguration.routes Stage.sampleConfiguration.fallback }

/-- The matcher of the stage asks the collaborator, which declines, and then answers by path and
method. -/
theorem exec_ask_watchedStage {path : String} (hpath : e.request.urlPath = .ok path)
    {selected : Bool}
    (h : (path == defaultLogoutPath && e.request.upperMethod ∈ allowedMethods true) = selected) :
    Run.exec watchedStage.configuration.matcher.ask e =
      (.ok selected, { e with calls := e.calls ++ [.probed "watch"] }) := by
  let watched : Exchange := { e with calls := e.calls ++ [.probed "watch"] }
  have hprobe : Run.exec (Matcher.Atom.ask (.probe "watch" (.ok false))) e = (.ok false, watched) :=
    rfl
  have hlogout : Run.exec (Matcher.ask (.atom (.logout defaultLogoutPath (allowedMethods true))))
      watched = (.ok selected, watched) := by
    rw [Matcher.exec_ask_logout (e := watched) hpath]
    exact congrArg (fun answer => (Except.ok answer, watched)) h
  refine (Run.exec_bind_of_ok hprobe).trans ((Run.exec_bind_of_ok hlogout).trans ?_)
  cases selected with
  | true => rfl
  | false => rfl

/-- A wrapped stage hands GET on, a plain one keeps POST, and nobody is found by a name that no
header line can have. -/
theorem dispatch_of_asked_sample :
    HandsOn ⟨.decorated watchedStage, .signedIn⟩ (some Stage.samplePrincipal)
      (Assembly.sampleRequest "GET" defaultLogoutPath)
      { Assembly.sampleRequest "GET" defaultLogoutPath with
        calls := [.decoratedProcess, .probed "watch"] } ∧
    (∃ result e', Gate.Keeps ⟨.stage watchedStage, .signedIn⟩ Stage.sampleExchange result e' ∧
      Run.exec (watchedStage.process (some Stage.samplePrincipal)) Stage.sampleExchange =
        (result.map some, e')) ∧
    ∃ fault, Gate.Keeps ⟨.stage watchedStage, .header "ł"⟩ Stage.sampleExchange (.error fault)
      Stage.sampleExchange := by
  refine ⟨?_, ?_, ?_⟩
  · let arrived := Assembly.sampleRequest "GET" defaultLogoutPath
    let entered : Exchange := { arrived with calls := [.decoratedProcess] }
    have hpath : entered.request.urlPath = _ :=
      Assembly.urlPath_sampleRequest "GET" defaultLogoutPath
    have hasked : Run.exec watchedStage.configuration.matcher.ask entered =
        (.ok false, { arrived with calls := [.decoratedProcess, .probed "watch"] }) :=
      exec_ask_watchedStage hpath (by decide)
    exact ((dispatch_of_asked ⟨.decorated watchedStage, .signedIn⟩ arrived).2
      (some Stage.samplePrincipal) rfl (.ok false) _ hasked).1 rfl
  · have hasked : Run.exec watchedStage.configuration.matcher.ask Stage.sampleExchange =
        (.ok true, { Stage.sampleExchange with calls := [.probed "watch"] }) :=
      exec_ask_watchedStage Stage.urlPath_sampleExchange (by decide)
    exact ((dispatch_of_asked ⟨.stage watchedStage, .signedIn⟩ Stage.sampleExchange).2
      (some Stage.samplePrincipal) rfl (.ok true) _ hasked).2.1 rfl
  · exact ⟨_, (dispatch_of_asked ⟨.stage watchedStage, .header "ł"⟩ _).1 _ rfl⟩

/-! ## Gates one around another -/

/-- A gate comes to an answer about a request: its resolver finds out who asks, and its matcher
selects the request or declines it. -/
def Answers (gate : StageGate) (r : Request) (selected : Bool) : Prop :=
  (∃ principal, gate.resolver.found r = .ok principal) ∧
    ∃ e e₁, e.request = r ∧ Run.exec gate.matcher.ask e = (.ok selected, e₁)

variable {selected : Bool}

/-- A gate comes to the same answer in every exchange that has the request. -/
theorem Answers.exists_exec_ask (h : gate.Answers e.request selected) :
    ∃ principal e₁, gate.resolver.found e.request = .ok principal ∧
      Run.exec gate.matcher.ask (gate.filter.entered e) = (.ok selected, e₁) := by
  obtain ⟨⟨principal, hfound⟩, e₀, e₂, hrequest, hasked⟩ := h
  have hentered : (gate.filter.entered e).request = e₀.request := by
    rw [StageFilter.request_entered, hrequest]
  obtain ⟨asked, -, hanswer⟩ := Matcher.exec_ask_of_request_eq hentered hasked
  exact ⟨principal, _, hfound, hanswer⟩

/-- A gate that declines a request hands it on with nothing but calls added. -/
theorem Answers.exists_passesOn (h : gate.Answers e.request false) :
    ∃ asked, gate.toGate.PassesOn e { e with calls := e.calls ++ asked } := by
  obtain ⟨principal, e₁, hfound, hasked⟩ := h.exists_exec_ask
  obtain ⟨asked, rfl⟩ := eq_of_exec_ask hasked
  exact ⟨asked, passesOn_of_declined hfound hasked⟩

/-- A gate that selects a request keeps it. -/
theorem Answers.exists_keeps (h : gate.Answers e.request true) :
    ∃ result e', gate.toGate.Keeps e result e' := by
  obtain ⟨principal, e₁, hfound, hasked⟩ := h.exists_exec_ask
  obtain ⟨result, e', hkeeps, -⟩ := exists_keeps_of_selected hfound hasked
  exact ⟨result, e', hkeeps⟩

/-- Gates that all decline a request hand it on to what they stand in front of, as if none of them
were there. -/
theorem exec_enter_append {outer : List StageGate}
    (h : ∀ gate ∈ outer, gate.Answers e.request false) :
    ∃ asked, ∀ inner, Run.exec (Gate.enter (outer.map toGate ++ inner)) e =
      Run.exec (Gate.enter inner) { e with calls := e.calls ++ asked } := by
  induction outer generalizing e with
  | nil => exact ⟨[], fun inner => by rw [List.append_nil]; rfl⟩
  | cons gate outer ih =>
      obtain ⟨asked, hpasses⟩ := (h gate List.mem_cons_self).exists_passesOn
      obtain ⟨others, hinner⟩ := @ih { e with calls := e.calls ++ asked }
        fun gate hmem => h gate (List.mem_cons_of_mem _ hmem)
      refine ⟨asked ++ others, fun inner => ?_⟩
      refine (hpasses _).trans ((hinner inner).trans ?_)
      rw [List.append_assoc]

/-- Through gates that all decline it, a request reaches the application once and as it came, and
the answer of the application is the answer. -/
theorem exec_enter_of_declines {gates : List StageGate}
    (h : ∀ gate ∈ gates, gate.Answers e.request false) :
    ∃ asked, Run.exec (Gate.enter (gates.map toGate)) e = (.ok Gate.downstream, { e with
      calls := e.calls ++ asked ++ [.reachedApplication e.request.method e.request.path] }) := by
  obtain ⟨asked, henter⟩ := exec_enter_append h
  refine ⟨asked, ?_⟩
  have happlication := henter []
  rw [List.append_nil] at happlication
  exact happlication

/-- The first gate that selects a request answers for all behind it: neither the gates that it
stands in front of nor the application have a say. -/
theorem exec_enter_of_selects {outer : List StageGate}
    (houter : ∀ gate ∈ outer, gate.Answers e.request false) (h : gate.Answers e.request true) :
    ∃ result e', ∀ inner,
      Run.exec (Gate.enter (outer.map toGate ++ gate.toGate :: inner)) e = (result, e') := by
  obtain ⟨asked, henter⟩ := exec_enter_append houter
  obtain ⟨result, e', hkeeps⟩ :=
    Answers.exists_keeps (e := { e with calls := e.calls ++ asked }) h
  exact ⟨result, e', fun inner => (henter (gate.toGate :: inner)).trans (hkeeps _)⟩

end StageGate

end SignOut
