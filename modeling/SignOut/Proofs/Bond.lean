import SignOut.Proofs.Parts

/-!
# Two runs side by side

The same stage is run twice, in two exchanges and possibly for two principals.  A bond is a relation
between the two exchanges that both runs keep up while they give the same results.  It needs two
requests that agree outside the session and the user, because nothing else of a request decides what
a matcher answers or what a success handler writes; and it allows each run to record calls that show
its own principal and its own request.  A bond that also ties the clocks and the responses together
holds of everything in the library but the three kinds of handlers that read the session or the
store: those, and the application's own collaborators, a bond has to admit one by one.
-/

namespace SignOut

/-! ## What decides on a request -/

namespace Request

/-- A request apart from its session and its user. -/
def outline (r : Request) : Request :=
  { r with session := none, user := none, userContext := none }

variable {r r' : Request}

theorem urlPath_eq_of_outline (h : r'.outline = r.outline) : r'.urlPath = r.urlPath :=
  (congrArg urlPath h : urlPath r'.outline = urlPath r.outline)

theorem upperMethod_eq_of_outline (h : r'.outline = r.outline) : r'.upperMethod = r.upperMethod :=
  (congrArg upperMethod h : upperMethod r'.outline = upperMethod r.outline)

theorem method_eq_of_outline (h : r'.outline = r.outline) : r'.method = r.method :=
  (congrArg method h : method r'.outline = method r.outline)

theorem client_eq_of_outline (h : r'.outline = r.outline) : r'.client = r.client :=
  (congrArg client h : client r'.outline = client r.outline)

theorem header?_eq_of_outline (h : r'.outline = r.outline) (name : String) :
    r'.header? name = r.header? name :=
  (congrArg (header? · name) h : header? r'.outline name = header? r.outline name)

end Request

/-- A relation between the exchanges of two runs, which are for two principals. -/
structure Bond (p p' : Option Principal) where
  Rel : Exchange → Exchange → Prop
  outline_eq : ∀ {e f}, Rel e f → f.request.outline = e.request.outline
  recorded : ∀ (calls : Option Principal → Request → List Call) {e f}, Rel e f →
    Rel { e with calls := e.calls ++ calls p e.request }
      { f with calls := f.calls ++ calls p' f.request }

/-- A bond that ties the clocks and the responses together and allows them to be written to. -/
class Bond.AllowsAnswers {p p' : Option Principal} (B : Bond p p') : Prop where
  now_eq : ∀ {e f}, B.Rel e f → f.now = e.now
  response_eq : ∀ {e f}, B.Rel e f → f.response = e.response
  answered : ∀ (write : Response → Response) {e f}, B.Rel e f →
    B.Rel { e with response := write e.response } { f with response := write f.response }
  logged : ∀ (entry : LogRecord) {e f}, B.Rel e f →
    B.Rel { e with records := e.records ++ [entry] } { f with records := f.records ++ [entry] }

namespace Bond

variable {α β : Type} {p p' : Option Principal}

/-- Two runs from exchanges of a bond give the same result and keep the bond up. -/
def Holds (B : Bond p p') (x y : Run α) : Prop :=
  ∀ e f, B.Rel e f →
    (Run.exec y f).1 = (Run.exec x e).1 ∧ B.Rel (Run.exec x e).2 (Run.exec y f).2

/-- What a bond that holds of two runs says about an execution of the first. -/
theorem Holds.exists_exec {B : Bond p p'} {x y : Run α} (h : B.Holds x y) {e e' f : Exchange}
    {result : Except Fault α} (hrel : B.Rel e f) (hrun : Run.exec x e = (result, e')) :
    ∃ f', Run.exec y f = (result, f') ∧ B.Rel e' f' := by
  obtain ⟨hresult, hkept⟩ := h e f hrel
  rw [hrun] at hresult hkept
  exact ⟨(Run.exec y f).2, Prod.ext hresult rfl, hkept⟩

section Operations

variable (B : Bond p p')

theorem holds_pure (a : α) : B.Holds (pure a) (pure a) :=
  fun _ _ h => ⟨rfl, h⟩

theorem holds_stop (fault : Fault) : B.Holds (Run.stop fault : Run α) (Run.stop fault) :=
  fun _ _ h => ⟨rfl, h⟩

variable {B}

/-- Two sequences go together if their halves do; where the first halves stop, they stop alike. -/
theorem holds_bind {x y : Run α} {next next' : α → Run β} (hfirst : B.Holds x y)
    (hnext : ∀ a, B.Holds (next a) (next' a)) : B.Holds (x >>= next) (y >>= next') := by
  intro e f hrel
  rw [Run.exec_bind, Run.exec_bind]
  rcases hx : Run.exec x e with ⟨result, e₁⟩
  obtain ⟨f₁, hy, hkept⟩ := hfirst.exists_exec hrel hx
  rw [hy]
  cases result with
  | ok a => exact hnext a e₁ f₁ hkept
  | error fault => exact ⟨rfl, hkept⟩

/-- Whatever is done with a request goes together if it does for requests that agree outside the
session and the user. -/
theorem holds_request_bind {next next' : Request → Run β}
    (h : ∀ {r r' : Request}, r'.outline = r.outline → B.Holds (next r) (next' r')) :
    B.Holds (Run.request >>= next) (Run.request >>= next') := by
  intro e f hrel
  rw [Run.exec_bind_of_ok (Run.exec_request e), Run.exec_bind_of_ok (Run.exec_request f)]
  exact h (B.outline_eq hrel) e f hrel

variable (B)

theorem holds_urlPath : B.Holds Run.urlPath Run.urlPath := by
  refine holds_request_bind fun h => ?_
  rw [Request.urlPath_eq_of_outline h]
  split
  · exact B.holds_pure _
  · exact B.holds_stop _

theorem holds_header? (name : String) : B.Holds (Run.header? name) (Run.header? name) := by
  refine holds_request_bind fun h => ?_
  rw [Request.header?_eq_of_outline h]
  split
  · exact B.holds_pure _
  · exact B.holds_stop _

theorem holds_requireLatin1 (text : String) :
    B.Holds (Run.requireLatin1 text) (Run.requireLatin1 text) := by
  unfold Run.requireLatin1
  split
  · exact B.holds_pure _
  · exact B.holds_stop _

/-- Each run may record a call that shows its own principal. -/
theorem holds_record (call : Option Principal → Call) :
    B.Holds (Run.record (call p)) (Run.record (call p')) :=
  fun _ _ h => ⟨rfl, B.recorded (fun q _ => [call q]) h⟩

/-- Each run may record a call that shows its own principal and its own request. -/
theorem holds_record_request (call : Option Principal → Request → Call) :
    B.Holds (do Run.record (call p (← Run.request))) (do Run.record (call p' (← Run.request))) := by
  intro e f hrel
  rw [Run.exec_bind_of_ok (Run.exec_request e), Run.exec_bind_of_ok (Run.exec_request f)]
  exact ⟨rfl, B.recorded (fun q r => [call q r]) hrel⟩

end Operations

/-! ## Matchers -/

section Matchers

/-- What a bond has to admit of a part: that it does the same in both runs, if it is a part that
looks at the session, the user or the store. -/
def Admits (B : Bond p p') : Part → Prop
  | .matcher (.custom observer) => B.Holds observer.ask observer.ask
  | .handler (.clearContext session authentication) =>
      B.Holds (Handler.Action.perform p (.clearContext session authentication))
        (Handler.Action.perform p' (.clearContext session authentication))
  | .handler (.removeSession removal) =>
      B.Holds (Handler.removeSession removal p) (Handler.removeSession removal p')
  | .handler (.custom collaborator) => B.Holds (collaborator.engage p) (collaborator.engage p')
  | .success (.custom collaborator) => B.Holds (collaborator.engage p) (collaborator.engage p')
  | _ => True

variable {B : Bond p p'}

/-- A matcher of the application does the same in both runs if it answers the same. -/
theorem holds_observe {o : Observer}
    (h : ∀ {e f}, B.Rel e f → o.answer f.request = o.answer e.request) :
    B.Holds o.ask o.ask := by
  intro e f hrel
  rw [Observer.exec_ask, Observer.exec_ask]
  exact ⟨h hrel, B.recorded (fun _ r => o.calls r) hrel⟩

/-- Single matchers answer the same in both runs. -/
theorem holds_atom_ask {a : Matcher.Atom} (h : B.Admits (.matcher a)) : B.Holds a.ask a.ask := by
  cases a with
  | logout target methods =>
      refine holds_bind B.holds_urlPath fun path => holds_request_bind fun houtline => ?_
      rw [Request.upperMethod_eq_of_outline houtline]
      exact B.holds_pure _
  | path target method =>
      cases method with
      | none => exact holds_bind B.holds_urlPath fun _ => B.holds_pure _
      | some method =>
          refine holds_request_bind fun houtline => ?_
          rw [Request.upperMethod_eq_of_outline houtline]
          split
          · exact holds_bind B.holds_urlPath fun _ => B.holds_pure _
          · exact B.holds_pure _
  | everything => exact B.holds_pure true
  | header name value =>
      refine holds_bind (B.holds_header? name) fun actual => ?_
      split
      · exact B.holds_pure _
      · exact B.holds_pure _
      · exact B.holds_pure _
  | media matcher => exact holds_bind (B.holds_header? "accept") fun _ => B.holds_pure _
  | probe name answer =>
      refine holds_bind (B.holds_record fun _ => .probed name) fun _ => ?_
      split
      · exact B.holds_pure _
      · exact B.holds_stop _
  | custom observer => exact h
  | foreign value => exact B.holds_stop _

theorem holds_evalAll {leaf : α → Run Bool} {parts : List (Formula α)}
    (h : ∀ part ∈ parts, B.Holds (part.eval leaf) (part.eval leaf)) :
    B.Holds (Formula.evalAll leaf parts) (Formula.evalAll leaf parts) := by
  induction parts with
  | nil => exact B.holds_pure true
  | cons part rest ih =>
      refine holds_bind (h part List.mem_cons_self) fun answer => ?_
      cases answer with
      | true => exact ih fun part hmem => h part (List.mem_cons_of_mem _ hmem)
      | false => exact B.holds_pure false

theorem holds_evalAny {leaf : α → Run Bool} {parts : List (Formula α)}
    (h : ∀ part ∈ parts, B.Holds (part.eval leaf) (part.eval leaf)) :
    B.Holds (Formula.evalAny leaf parts) (Formula.evalAny leaf parts) := by
  induction parts with
  | nil => exact B.holds_pure false
  | cons part rest ih =>
      refine holds_bind (h part List.mem_cons_self) fun answer => ?_
      cases answer with
      | true => exact B.holds_pure true
      | false => exact ih fun part hmem => h part (List.mem_cons_of_mem _ hmem)

/-- A matcher answers the same in both runs if its leaves do. -/
theorem holds_ask {matcher : Matcher} (h : ∀ part ∈ matcher.toParts, B.Admits part) :
    B.Holds matcher.ask matcher.ask := by
  have hleaves : ∀ a ∈ matcher.leaves, B.Admits (.matcher a) := fun a ha =>
    h _ (Matcher.mem_toParts.mpr ⟨a, ha, rfl⟩)
  clear h
  show B.Holds (matcher.eval Matcher.Atom.ask) (matcher.eval Matcher.Atom.ask)
  -- the same leaves are asked in both runs, because those ahead of them answered the same
  induction matcher using Formula.induction with
  | atom a => exact holds_atom_ask (hleaves a (List.mem_singleton_self a))
  | all parts ih =>
      exact holds_evalAll fun part hmem => ih part hmem fun a ha =>
        hleaves a (Formula.mem_leavesOf.mpr ⟨part, hmem, ha⟩)
  | any parts ih =>
      exact holds_evalAny fun part hmem => ih part hmem fun a ha =>
        hleaves a (Formula.mem_leavesOf.mpr ⟨part, hmem, ha⟩)
  | negation part ih => exact holds_bind (ih hleaves) fun _ => B.holds_pure _

end Matchers

/-! ## Work on the response -/

section Work

variable (B : Bond p p') [B.AllowsAnswers]

/-- Whatever is done at a moment goes together if it does for exchanges with the same clock. -/
theorem holds_now_bind {next next' : Exchange → Run β}
    (h : ∀ {e f : Exchange}, f.now = e.now → B.Holds (next e) (next' f)) :
    B.Holds (get >>= next) (get >>= next') := by
  intro e f hrel
  rw [Run.exec_bind_of_ok (Run.exec_get e), Run.exec_bind_of_ok (Run.exec_get f)]
  exact h (AllowsAnswers.now_eq hrel) e f hrel

theorem holds_timestamp : B.Holds Run.timestamp Run.timestamp := by
  unfold Run.timestamp
  refine B.holds_now_bind fun hnow => ?_
  rw [hnow]
  split
  · exact B.holds_pure _
  · exact B.holds_stop _

theorem holds_modifyResponse (write : Response → Response) :
    B.Holds (Run.modifyResponse write) (Run.modifyResponse write) :=
  fun _ _ h => ⟨rfl, AllowsAnswers.answered write h⟩

theorem holds_addHeader (name value : String) :
    B.Holds (Run.addHeader name value) (Run.addHeader name value) :=
  holds_bind (B.holds_requireLatin1 _) fun _ =>
    holds_bind (B.holds_requireLatin1 value) fun _ => B.holds_modifyResponse _

theorem holds_expireCookie (name : String) (path domain : Option String) :
    B.Holds (Run.expireCookie name path domain) (Run.expireCookie name path domain) := by
  unfold Run.expireCookie
  split
  · exact B.holds_stop _
  split
  · exact B.holds_stop _
  refine B.holds_now_bind fun hnow => ?_
  rw [hnow]
  split
  · exact B.holds_stop _
  · exact holds_bind (B.holds_requireLatin1 _) fun _ => B.holds_modifyResponse _

end Work

/-! ## Handlers -/

section Handlers

variable {B : Bond p p'} [B.AllowsAnswers]

theorem holds_expireCookies (path domain : Option String) (names : List String) :
    B.Holds (Handler.expireCookies path domain names)
      (Handler.expireCookies path domain names) := by
  induction names with
  | nil => exact B.holds_pure ()
  | cons name rest ih => exact holds_bind (B.holds_expireCookie name path domain) fun _ => ih

theorem holds_clearToken (repository : TokenRepository) :
    B.Holds (Handler.clearToken repository) (Handler.clearToken repository) := by
  unfold Handler.clearToken
  refine holds_bind B.holds_urlPath fun path =>
    holds_bind (B.holds_record fun _ => .clearedToken path) fun _ => ?_
  split
  · exact B.holds_pure _
  · exact B.holds_expireCookie _ _ _

/-- Each run publishes an event of its own: the two differ in the principal at most. -/
theorem holds_publishEvent (publisher : Publisher) :
    B.Holds (Handler.publishEvent publisher p) (Handler.publishEvent publisher p') := by
  unfold Handler.publishEvent Handler.newEvent
  simp only [bind_assoc, pure_bind]
  refine holds_bind B.holds_urlPath fun path => holds_bind B.holds_timestamp fun timestamp =>
    holds_request_bind fun {r r'} houtline => ?_
  rw [Request.method_eq_of_outline houtline, Request.client_eq_of_outline houtline]
  -- path, method and client are those of both requests, and the clock is shared
  let event (q : Option Principal) : Event :=
    { principal := q, path := some path, method := some r.method, clientHost := r.client, timestamp
      source := some Event.defaultSource, metadata := .object [] }
  refine holds_bind (B.holds_record fun q => .published (event q)) fun _ => ?_
  split
  · exact B.holds_pure _
  · exact B.holds_stop _

theorem holds_addHeaders (lines : List HeaderLine) :
    B.Holds (Handler.addHeaders lines) (Handler.addHeaders lines) := by
  induction lines with
  | nil => exact B.holds_pure ()
  | cons line rest ih => exact holds_bind (B.holds_addHeader _ _) fun _ => ih

theorem holds_runRecording (h : RecordingHandler) :
    B.Holds (Handler.runRecording h p) (Handler.runRecording h p') := by
  have hsession : B.Holds (Handler.recordSession h) (Handler.recordSession h) := by
    unfold Handler.recordSession
    split
    · exact B.holds_pure _
    · exact B.holds_record_request fun _ r => .sawSession (r.session.bind _)
  unfold Handler.runRecording
  exact holds_bind (B.holds_record fun q => .loggedOut h.name q) fun _ =>
    holds_bind hsession fun _ => holds_bind (B.holds_modifyResponse _) fun _ =>
      holds_bind (holds_addHeaders _) fun _ => B.holds_modifyResponse _

/-- A single handler does the same in both runs if the bond admits it. -/
theorem holds_action_perform {a : Handler.Action} (h : B.Admits (.handler a)) :
    B.Holds (a.perform p) (a.perform p') := by
  cases a with
  | expireCookies names path domain => exact holds_expireCookies path domain names
  | clearContext session authentication => exact h
  | removeSession removal => exact h
  | clearToken repository => exact holds_clearToken repository
  | publishEvent publisher => exact holds_publishEvent publisher
  | recording handler => exact holds_runRecording handler
  | failing message =>
      exact holds_bind (B.holds_record fun _ => .failedLogout) fun _ => B.holds_stop _
  | forgetUser => exact B.holds_record fun q => .forgotten q
  | custom collaborator => exact h
  | unawaited typeName => exact B.holds_stop _
  | foreign value => exact B.holds_stop _

omit [B.AllowsAnswers] in
theorem holds_forM {ι : Type} {act act' : ι → Run PUnit} {parts : List ι}
    (h : ∀ part ∈ parts, B.Holds (act part) (act' part)) :
    B.Holds (parts.forM act) (parts.forM act') := by
  induction parts with
  | nil => exact B.holds_pure PUnit.unit
  | cons part rest ih =>
      exact holds_bind (h part List.mem_cons_self) fun _ =>
        ih fun part hmem => h part (List.mem_cons_of_mem _ hmem)

/-- A handler does the same in both runs if its single handlers do. -/
theorem holds_perform {handler : Handler} (h : ∀ part ∈ handler.toParts, B.Admits part) :
    B.Holds (handler.perform p) (handler.perform p') := by
  show B.Holds (handler.run (Handler.Action.perform p)) (handler.run (Handler.Action.perform p'))
  rw [Chain.run_eq_forM, Chain.run_eq_forM]
  exact holds_forM fun a ha => holds_action_perform (h _ (Handler.mem_toParts.mpr ⟨a, ha, rfl⟩))

end Handlers

/-! ## Success handlers -/

section Answers

variable {B : Bond p p'} [B.AllowsAnswers]

theorem holds_writeRedirect (url : Option String) :
    B.Holds (Success.writeRedirect url) (Success.writeRedirect url) := by
  unfold Success.writeRedirect
  refine holds_bind (B.holds_modifyResponse _) fun _ => ?_
  split
  · exact B.holds_stop _
  · exact holds_bind (B.holds_requireLatin1 _) fun _ => B.holds_modifyResponse _

theorem holds_writeNegotiated (loginPath : String) :
    B.Holds (Success.writeNegotiated loginPath) (Success.writeNegotiated loginPath) := by
  have hresolve : B.Holds Success.resolve Success.resolve :=
    holds_bind (B.holds_header? _) fun _ => holds_bind (B.holds_header? _) fun _ => B.holds_pure _
  unfold Success.writeNegotiated
  refine holds_bind hresolve fun outcome => holds_bind B.holds_urlPath fun _ => ?_
  split
  · exact B.holds_modifyResponse _
  · exact holds_writeRedirect _

/-- A single success handler writes the same in both runs if the bond admits it. -/
theorem holds_answer_give {a : Success.Answer} (h : B.Admits (.success a)) :
    B.Holds (a.give p) (a.give p') := by
  cases a with
  | redirect url => exact holds_writeRedirect _
  | status code => exact B.holds_modifyResponse _
  | negotiating loginPath => exact holds_writeNegotiated loginPath
  | recording name code =>
      exact holds_bind (B.holds_record fun q => .succeeded name q) fun _ =>
        B.holds_modifyResponse _
  | failing message => exact B.holds_stop _
  | custom collaborator => exact h
  | unawaited typeName => exact B.holds_stop _
  | foreign value => exact B.holds_stop _

omit [B.AllowsAnswers] in
theorem holds_runRoutes {μ : Type} {ask : μ → Run Bool} {give give' : α → Run Unit}
    {otherwise otherwise' : Run Unit} {routes : List (μ × Dispatch μ α)}
    (hroutes : ∀ route ∈ routes, B.Holds (ask route.1) (ask route.1) ∧
      B.Holds (route.2.run ask give) (route.2.run ask give'))
    (hotherwise : B.Holds otherwise otherwise') :
    B.Holds (Dispatch.runRoutes ask give otherwise routes)
      (Dispatch.runRoutes ask give' otherwise' routes) := by
  induction routes with
  | nil => exact hotherwise
  | cons route rest ih =>
      obtain ⟨matcher, target⟩ := route
      obtain ⟨hmatcher, htarget⟩ := hroutes (matcher, target) List.mem_cons_self
      refine holds_bind hmatcher fun selected => ?_
      cases selected with
      | true => exact htarget
      | false => exact ih fun route hmem => hroutes route (List.mem_cons_of_mem _ hmem)

/-- A success handler writes the same in both runs if the bond admits all its parts: the routes
select the same one. -/
theorem holds_give {success : Success} (h : ∀ part ∈ success.toParts, B.Admits part) :
    B.Holds (success.give p) (success.give p') := by
  show B.Holds (success.run Matcher.ask (Success.Answer.give p))
    (success.run Matcher.ask (Success.Answer.give p'))
  induction success using Dispatch.induction with
  | answer a => exact holds_answer_give (h _ (List.mem_singleton_self _))
  | routed routes fallback ihroutes ihfallback =>
      refine holds_runRoutes (fun route hmem => ⟨?_, ?_⟩) ?_
      · exact holds_ask fun part hpart => h part
          (List.mem_append_left _ (Success.mem_partsOf.mpr ⟨route, hmem, Or.inl hpart⟩))
      · exact ihroutes route hmem fun part hpart => h part
          (List.mem_append_left _ (Success.mem_partsOf.mpr ⟨route, hmem, Or.inr hpart⟩))
      · exact ihfallback fun part hpart => h part (List.mem_append_right _ hpart)

end Answers

/-! ## Stages -/

section Stages

variable {B : Bond p p'} [B.AllowsAnswers]

/-- Both runs log the same completion and return the same response. -/
theorem holds_conclude (path : String) :
    B.Holds (do let e ← get; Run.log (Stage.completion path e); return e.response)
      (do let e ← get; Run.log (Stage.completion path e); return e.response) := by
  intro e f hrel
  rw [Run.exec_bind_of_ok (Run.exec_get e), Run.exec_bind_of_ok (Run.exec_get f),
    Run.exec_bind_of_ok (Run.exec_log _ e), Run.exec_bind_of_ok (Run.exec_log _ f)]
  have hentry : Stage.completion path f = Stage.completion path e := by
    unfold Stage.completion
    rw [Request.method_eq_of_outline (B.outline_eq hrel), AllowsAnswers.response_eq hrel]
  refine ⟨congrArg Except.ok (AllowsAnswers.response_eq hrel), ?_⟩
  rw [hentry]
  exact AllowsAnswers.logged (Stage.completion path e) hrel

/-- A stage does the same in both runs if the bond admits all its parts. -/
theorem holds_process {c : Configuration} {s : Stage} (hs : Stage.ofConfiguration c = .ok s)
    (h : ∀ part ∈ c.parts, B.Admits part) : B.Holds (s.process p) (s.process p') := by
  obtain rfl := Stage.eq_of_ofConfiguration hs
  have hmatcher : B.Holds c.matcher.ask c.matcher.ask :=
    holds_ask fun part hpart => h part (Configuration.mem_parts.mpr (Or.inl hpart))
  have hhandler : B.Holds (Handler.perform p (.many c.handlers))
      (Handler.perform p' (.many c.handlers)) :=
    holds_perform fun part hpart => h part (Configuration.mem_parts_of_mem_chain hpart)
  have hsuccess : B.Holds (Success.give p (.routed c.routes c.fallback))
      (Success.give p' (.routed c.routes c.fallback)) :=
    holds_give fun part hpart => h part (Configuration.mem_parts.mpr (Or.inr (Or.inr hpart)))
  refine holds_bind hmatcher fun selected => ?_
  cases selected with
  | false => exact B.holds_pure none
  | true =>
      -- from here on both runs work on a fresh response
      refine holds_bind ?_ fun _ => B.holds_pure _
      exact holds_bind B.holds_urlPath fun path =>
        holds_bind (B.holds_modifyResponse _) fun _ => holds_bind hhandler fun _ =>
          holds_bind hsuccess fun _ => B.holds_conclude path

end Stages

end Bond

end SignOut
