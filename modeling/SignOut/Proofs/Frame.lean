import SignOut.Proofs.Execution
import SignOut.Stage

/-!
# Frames

What a run leaves alone.  A frame is a relation between the exchange before a run and the one that
the run reached, completed or not.  It adds up along a run and allows calls to be recorded, which
is all that a matcher can do, so every frame holds of every matcher.  Most frames also allow the
work that any part of the library may do: to write to the response, and to remove something from
the session store and log that.  Such a frame holds of a handler or success handler as soon as it
admits the two kinds of steps that can write to the request: the clearing of the session and the
user, and the deeds of the application's own collaborators.
-/

namespace SignOut

/-- A relation between the exchanges before and after a run. -/
structure Frame where
  Rel : Exchange → Exchange → Prop
  refl : ∀ e, Rel e e
  trans : ∀ {e₁ e₂ e₃}, Rel e₁ e₂ → Rel e₂ e₃ → Rel e₁ e₃
  recorded : ∀ e call, Rel e { e with calls := e.calls ++ [call] }

/-- A frame that allows the work of the library's own handlers and success handlers, as far as it
leaves the response alone. -/
class Frame.AllowsRemoval (F : Frame) : Prop where
  deleted : ∀ e key, F.Rel e { e with store := e.store.delete key }
  removed : ∀ e set member, F.Rel e { e with store := e.store.remove set member }
  logged : ∀ e entry, entry.logger = Handler.removalLogger →
    F.Rel e { e with records := e.records ++ [entry] }

/-- A frame that allows the work of the library's own handlers and success handlers, with the
response written to in the four ways in which they do that: its status and body are replaced, a
header line is added behind the others, the one header that names the target of a redirect is set,
and the one that announces a length is taken away. -/
class Frame.AllowsWrites (F : Frame) : Prop extends F.AllowsRemoval where
  restated : ∀ e response, response.headers = e.response.headers → F.Rel e { e with response }
  added : ∀ e name value, F.Rel e { e with response := e.response.addHeader name value }
  located : ∀ e target, F.Rel e { e with response := e.response.setHeader "location" target }
  unannounced : ∀ e, F.Rel e { e with response := e.response.removeHeader "content-length" }

/-- A frame that allows the work of the library's own handlers and success handlers, whatever they
write to the response. -/
class Frame.AllowsWork (F : Frame) : Prop extends F.AllowsRemoval where
  answered : ∀ e response, F.Rel e { e with response }

instance (F : Frame) [F.AllowsWork] : F.AllowsWrites where
  restated e response _ := Frame.AllowsWork.answered e response
  added e _ _ := Frame.AllowsWork.answered e _
  located e _ := Frame.AllowsWork.answered e _
  unannounced e := Frame.AllowsWork.answered e _

namespace Frame

variable {α β : Type}

/-- The frame holds of a run from every exchange, whether the run completes or not. -/
def Holds (F : Frame) (action : Run α) : Prop :=
  ∀ e, F.Rel e (Run.exec action e).2

/-- What a frame that holds of a run says about one of its executions. -/
theorem Holds.rel {F : Frame} {action : Run α} (h : F.Holds action) {e e' : Exchange}
    {result : Except Fault α} (hrun : Run.exec action e = (result, e')) : F.Rel e e' := by
  have hrel := h e
  rw [hrun] at hrel
  exact hrel

section Operations

variable (F : Frame)

theorem holds_pure (a : α) : F.Holds (pure a) :=
  F.refl

theorem holds_stop (fault : Fault) : F.Holds (Run.stop fault : Run α) :=
  F.refl

theorem holds_get : F.Holds (get : Run Exchange) :=
  F.refl

theorem holds_modify {f : Exchange → Exchange} (h : ∀ e, F.Rel e (f e)) :
    F.Holds (modify f : Run PUnit) :=
  h

variable {F}

/-- A frame adds up along a sequence; if the first half stops, the second adds nothing. -/
theorem holds_bind {action : Run α} {next : α → Run β}
    (haction : F.Holds action) (hnext : ∀ a, F.Holds (next a)) :
    F.Holds (action >>= next) := by
  intro e
  rw [Run.exec_bind]
  rcases h : Run.exec action e with ⟨result, e₁⟩
  have hfirst : F.Rel e e₁ := haction.rel h
  cases result with
  | ok a => exact F.trans hfirst (hnext a e₁)
  | error fault => exact hfirst

variable (F)

theorem holds_record (call : Call) : F.Holds (Run.record call) :=
  fun e => F.recorded e call

theorem holds_request : F.Holds Run.request :=
  F.refl

theorem holds_urlPath : F.Holds Run.urlPath := by
  unfold Run.urlPath
  refine holds_bind F.holds_request fun r => ?_
  split
  · exact F.holds_pure _
  · exact F.holds_stop _

theorem holds_timestamp : F.Holds Run.timestamp := by
  unfold Run.timestamp
  refine holds_bind F.holds_get fun e => ?_
  split
  · exact F.holds_pure _
  · exact F.holds_stop _

theorem holds_header? (name : String) : F.Holds (Run.header? name) := by
  unfold Run.header?
  refine holds_bind F.holds_request fun r => ?_
  split
  · exact F.holds_pure _
  · exact F.holds_stop _

theorem holds_requireLatin1 (text : String) : F.Holds (Run.requireLatin1 text) := by
  unfold Run.requireLatin1
  split
  · exact F.holds_pure _
  · exact F.holds_stop _

end Operations

/-! ## The work of the library -/

section Work

variable (F : Frame) [F.AllowsWrites]

/-- A frame holds of a change of the response that leaves the header lines as they are. -/
theorem holds_restate {f : Response → Response} (hheaders : ∀ r, (f r).headers = r.headers) :
    F.Holds (Run.modifyResponse f) :=
  fun e => AllowsWrites.restated e (f e.response) (hheaders e.response)

theorem holds_withoutContent (code : Option Int) :
    F.Holds (Run.modifyResponse fun r => r.withoutContent code) := by
  intro e
  have hemptied : F.Rel e { e with response := { e.response with status := code, body := "" } } :=
    AllowsWrites.restated e _ rfl
  show F.Rel e { e with response := e.response.withoutContent code }
  unfold Response.withoutContent
  dsimp only
  split
  · exact F.trans hemptied (AllowsWrites.unannounced _)
  · exact hemptied

theorem holds_locate (target : String) : F.Holds (Run.setHeader "location" target) :=
  holds_bind (F.holds_requireLatin1 target) fun _ => fun e => AllowsWrites.located e target

theorem holds_addHeader (name value : String) : F.Holds (Run.addHeader name value) :=
  holds_bind (F.holds_requireLatin1 _) fun _ =>
    holds_bind (F.holds_requireLatin1 value) fun _ => fun e => AllowsWrites.added e _ value

theorem holds_expireCookie (name : String) (path domain : Option String) :
    F.Holds (Run.expireCookie name path domain) := by
  unfold Run.expireCookie
  split
  · exact F.holds_stop _
  split
  · exact F.holds_stop _
  refine holds_bind F.holds_get fun e => ?_
  split
  · exact F.holds_stop _
  · exact holds_bind (F.holds_requireLatin1 _) fun _ => fun e => AllowsWrites.added e _ _

theorem holds_deleteKey (key : String) : F.Holds (Run.deleteKey key) := by
  unfold Run.deleteKey
  refine holds_bind (F.holds_record _) fun _ => holds_bind F.holds_get fun e => ?_
  split
  · exact F.holds_stop _
  · exact holds_bind (F.holds_modify fun e => AllowsRemoval.deleted e key) fun _ => F.holds_pure _

theorem holds_removeMember (set member : String) : F.Holds (Run.removeMember set member) := by
  unfold Run.removeMember
  refine holds_bind (F.holds_record _) fun _ => holds_bind F.holds_get fun e => ?_
  split
  · exact F.holds_stop _
  · exact F.holds_modify fun e => AllowsRemoval.removed e set member

end Work

/-! ## Matchers -/

section Matchers

variable (F : Frame)

theorem holds_forM_record (calls : List Call) : F.Holds (calls.forM Run.record) := by
  induction calls with
  | nil => exact F.holds_pure ()
  | cons call rest ih => exact holds_bind (F.holds_record call) fun _ => ih

theorem holds_atom_ask (a : Matcher.Atom) : F.Holds a.ask := by
  cases a with
  | logout target methods =>
      exact holds_bind F.holds_urlPath fun _ => holds_bind F.holds_request fun _ => F.holds_pure _
  | path target method =>
      cases method with
      | none => exact holds_bind F.holds_urlPath fun _ => F.holds_pure _
      | some method =>
          refine holds_bind F.holds_request fun r => ?_
          split
          · exact holds_bind F.holds_urlPath fun _ => F.holds_pure _
          · exact F.holds_pure _
  | everything => exact F.holds_pure true
  | header name value =>
      refine holds_bind (F.holds_header? name) fun actual => ?_
      split
      · exact F.holds_pure _
      · exact F.holds_pure _
      · exact F.holds_pure _
  | media matcher => exact holds_bind (F.holds_header? "accept") fun _ => F.holds_pure _
  | probe name answer =>
      refine holds_bind (F.holds_record _) fun _ => ?_
      split
      · exact F.holds_pure _
      · exact F.holds_stop _
  | custom observer =>
      refine holds_bind F.holds_request fun r => holds_bind (F.holds_forM_record _) fun _ => ?_
      split
      · exact F.holds_pure _
      · exact F.holds_stop _
  | foreign value => exact F.holds_stop _

variable {F}

mutual

theorem holds_eval {leaf : α → Run Bool} (hleaf : ∀ a, F.Holds (leaf a)) :
    (formula : Formula α) → F.Holds (formula.eval leaf)
  | .atom a => hleaf a
  | .all parts => holds_evalAll hleaf parts
  | .any parts => holds_evalAny hleaf parts
  | .negation part => holds_bind (holds_eval hleaf part) fun _ => F.holds_pure _

theorem holds_evalAll {leaf : α → Run Bool} (hleaf : ∀ a, F.Holds (leaf a)) :
    (parts : List (Formula α)) → F.Holds (Formula.evalAll leaf parts)
  | [] => F.holds_pure true
  | part :: rest => by
      refine holds_bind (holds_eval hleaf part) fun answer => ?_
      cases answer with
      | true => exact holds_evalAll hleaf rest
      | false => exact F.holds_pure false

theorem holds_evalAny {leaf : α → Run Bool} (hleaf : ∀ a, F.Holds (leaf a)) :
    (parts : List (Formula α)) → F.Holds (Formula.evalAny leaf parts)
  | [] => F.holds_pure false
  | part :: rest => by
      refine holds_bind (holds_eval hleaf part) fun answer => ?_
      cases answer with
      | true => exact F.holds_pure true
      | false => exact holds_evalAny hleaf rest

end

variable (F)

/-- Every frame holds of every matcher: a matcher records calls at most. -/
theorem holds_ask (matcher : Matcher) : F.Holds matcher.ask :=
  holds_eval F.holds_atom_ask matcher

end Matchers

/-! ## Handlers -/

section Handlers

variable {F : Frame}

/-- What a frame has to admit of a collaborator: its deeds. -/
def AdmitsDeeds (F : Frame) (c : Collaborator) : Prop :=
  ∀ principal e, F.Rel e ((c.act principal e).applyTo e)

/-- What a frame has to admit of a single handler: a clearing, or deeds. -/
def Admits (F : Frame) : Handler.Action → Prop
  | .clearContext session authentication =>
      ∀ e, F.Rel e
        { e with
          request := Handler.clearedRequest session.isOn authentication.isOn e.request }
  | .custom collaborator => F.AdmitsDeeds collaborator
  | _ => True

/-- Only clearings and deeds have to be looked at to admit a single handler. -/
theorem admits_of_deeds {a : Handler.Action}
    (hclear : ∀ session authentication, a = .clearContext session authentication → ∀ e, F.Rel e
      { e with request := Handler.clearedRequest session.isOn authentication.isOn e.request })
    (hdeeds : ∀ collaborator, a = .custom collaborator → F.AdmitsDeeds collaborator) :
    F.Admits a := by
  cases a with
  | clearContext session authentication => exact hclear session authentication rfl
  | custom collaborator => exact hdeeds collaborator rfl
  | _ => trivial

/-- A handler that stands alone has itself as its only single handler. -/
theorem admits_of_mem_one {action a : Handler.Action} (ha : a ∈ Chain.actions (.one action))
    (h : F.Admits action) : F.Admits a := by
  rw [List.mem_singleton.mp ha]
  exact h

theorem holds_engage {c : Collaborator} (h : F.AdmitsDeeds c) (principal : Option Principal) :
    F.Holds (c.engage principal) := by
  intro e
  rw [Collaborator.exec_engage]
  exact h principal e

mutual

theorem holds_run {act : α → Run Unit} :
    (chain : Chain α) → (∀ a ∈ chain.actions, F.Holds (act a)) → F.Holds (chain.run act)
  | .one a, h => h a (by simp [Chain.actions])
  | .many parts, h => holds_runAll parts h

theorem holds_runAll {act : α → Run Unit} :
    (parts : List (Chain α)) → (∀ a ∈ Chain.actionsAll parts, F.Holds (act a)) →
      F.Holds (Chain.runAll act parts)
  | [], _ => F.holds_pure ()
  | part :: rest, h =>
      holds_bind (holds_run part fun a ha => h a (by simp [Chain.actionsAll, ha])) fun _ =>
        holds_runAll rest fun a ha => h a (by simp [Chain.actionsAll, ha])

end

variable [F.AllowsWrites]

theorem holds_removeSession (s : SessionRemoval) (principal : Option Principal) :
    F.Holds (Handler.removeSession s principal) := by
  have hindex : ∀ id, F.Holds (Handler.removeFromIndex s principal id) := by
    intro id
    unfold Handler.removeFromIndex
    split
    · exact F.holds_pure _
    · exact F.holds_removeMember _ _
  unfold Handler.removeSession
  refine holds_bind F.holds_request fun r => ?_
  split
  · exact F.holds_pure _
  split
  · exact F.holds_pure _
  exact holds_bind (F.holds_deleteKey _) fun deleted => holds_bind (hindex _) fun _ =>
    fun e => AllowsRemoval.logged e (Handler.removal deleted) rfl

theorem holds_clearToken (repository : TokenRepository) :
    F.Holds (Handler.clearToken repository) := by
  unfold Handler.clearToken
  refine holds_bind F.holds_urlPath fun path => holds_bind (F.holds_record _) fun _ => ?_
  split
  · exact F.holds_pure _
  · exact F.holds_expireCookie _ _ _

omit [F.AllowsWrites] in
theorem holds_publishEvent (publisher : Publisher) (principal : Option Principal) :
    F.Holds (Handler.publishEvent publisher principal) := by
  have hevent : F.Holds (Handler.newEvent principal) :=
    holds_bind F.holds_urlPath fun _ => holds_bind F.holds_timestamp fun _ =>
      holds_bind F.holds_request fun _ => F.holds_pure _
  unfold Handler.publishEvent
  refine holds_bind hevent fun event => holds_bind (F.holds_record _) fun _ => ?_
  split
  · exact F.holds_pure _
  · exact F.holds_stop _

theorem holds_addHeaders (lines : List HeaderLine) : F.Holds (Handler.addHeaders lines) := by
  induction lines with
  | nil => exact F.holds_pure ()
  | cons line rest ih => exact holds_bind (F.holds_addHeader _ _) fun _ => ih

theorem holds_runRecording (h : RecordingHandler) (principal : Option Principal) :
    F.Holds (Handler.runRecording h principal) := by
  have hsession : F.Holds (Handler.recordSession h) := by
    unfold Handler.recordSession
    split
    · exact F.holds_pure _
    · exact holds_bind F.holds_request fun r => F.holds_record _
  have hstatus : ∀ r, (Handler.withStatus h r).headers = r.headers := by
    intro r
    unfold Handler.withStatus
    split
    · rfl
    · rfl
  have hbody : ∀ r, (Handler.withBody h r).headers = r.headers := by
    intro r
    unfold Handler.withBody
    split
    · rfl
    · rfl
  unfold Handler.runRecording
  exact holds_bind (F.holds_record _) fun _ => holds_bind hsession fun _ =>
    holds_bind (F.holds_restate hstatus) fun _ => holds_bind (holds_addHeaders _) fun _ =>
      F.holds_restate hbody

theorem holds_expireCookies (path domain : Option String) (names : List String) :
    F.Holds (Handler.expireCookies path domain names) := by
  induction names with
  | nil => exact F.holds_pure ()
  | cons name rest ih => exact holds_bind (F.holds_expireCookie _ _ _) fun _ => ih

/-- A frame holds of every single handler that it admits. -/
theorem holds_action_perform {a : Handler.Action} (h : F.Admits a)
    (principal : Option Principal) : F.Holds (a.perform principal) := by
  cases a with
  | expireCookies names path domain => exact holds_expireCookies path domain names
  | clearContext session authentication => exact h
  | removeSession removal => exact holds_removeSession removal principal
  | clearToken repository => exact holds_clearToken repository
  | publishEvent publisher => exact holds_publishEvent publisher principal
  | recording handler => exact holds_runRecording handler principal
  | failing message => exact holds_bind (F.holds_record _) fun _ => F.holds_stop _
  | forgetUser => exact F.holds_record _
  | custom collaborator => exact holds_engage h principal
  | unawaited typeName => exact F.holds_stop _
  | foreign value => exact F.holds_stop _

/-- A frame holds of every handler of whose single handlers it admits each. -/
theorem holds_perform {handler : Handler} (h : ∀ a ∈ handler.actions, F.Admits a)
    (principal : Option Principal) : F.Holds (handler.perform principal) :=
  holds_run handler fun a ha => holds_action_perform (h a ha) principal

end Handlers

/-! ## Success handlers -/

section Answers

variable {F : Frame}

/-- What a frame has to admit of a single success handler: deeds. -/
def AdmitsAnswer (F : Frame) : Success.Answer → Prop
  | .custom collaborator => F.AdmitsDeeds collaborator
  | _ => True

/-- Only deeds have to be looked at to admit a single success handler. -/
theorem admitsAnswer_of_deeds {a : Success.Answer}
    (hdeeds : ∀ collaborator, a = .custom collaborator → F.AdmitsDeeds collaborator) :
    F.AdmitsAnswer a := by
  cases a with
  | custom collaborator => exact hdeeds collaborator rfl
  | _ => trivial

/-- A success handler without routes has itself as its only answer. -/
theorem admitsAnswer_of_mem_answer {answer a : Success.Answer}
    (ha : a ∈ Dispatch.answers (.answer answer : Success)) (h : F.AdmitsAnswer answer) :
    F.AdmitsAnswer a := by
  rw [List.mem_singleton.mp ha]
  exact h

mutual

theorem holds_dispatch {μ : Type} {ask : μ → Run Bool} {give : α → Run Unit}
    (hask : ∀ m, F.Holds (ask m)) :
    (d : Dispatch μ α) → (∀ a ∈ d.answers, F.Holds (give a)) → F.Holds (d.run ask give)
  | .answer a, h => h a (by simp [Dispatch.answers])
  | .routed routes fallback, h =>
      holds_runRoutes hask routes (fun a ha => h a (by simp [Dispatch.answers, ha]))
        (holds_dispatch hask fallback fun a ha => h a (by simp [Dispatch.answers, ha]))

theorem holds_runRoutes {μ : Type} {ask : μ → Run Bool} {give : α → Run Unit}
    (hask : ∀ m, F.Holds (ask m)) {otherwise : Run Unit} :
    (routes : List (μ × Dispatch μ α)) → (∀ a ∈ Dispatch.answersOf routes, F.Holds (give a)) →
      F.Holds otherwise → F.Holds (Dispatch.runRoutes ask give otherwise routes)
  | [], _, hotherwise => hotherwise
  | (matcher, target) :: rest, h, hotherwise => by
      refine holds_bind (hask matcher) fun selected => ?_
      cases selected with
      | true => exact holds_dispatch hask target fun a ha => h a (by simp [Dispatch.answersOf, ha])
      | false =>
          exact holds_runRoutes hask rest (fun a ha => h a (by simp [Dispatch.answersOf, ha]))
            hotherwise

end

variable [F.AllowsWrites]

theorem holds_writeRedirect (url : Option String) : F.Holds (Success.writeRedirect url) := by
  unfold Success.writeRedirect
  refine holds_bind (F.holds_restate fun _ => rfl) fun _ => ?_
  split
  · exact F.holds_stop _
  · exact F.holds_locate _

theorem holds_writeNegotiated (loginPath : String) :
    F.Holds (Success.writeNegotiated loginPath) := by
  have hresolve : F.Holds Success.resolve :=
    holds_bind (F.holds_header? _) fun _ => holds_bind (F.holds_header? _) fun _ => F.holds_pure _
  unfold Success.writeNegotiated
  refine holds_bind hresolve fun outcome => holds_bind F.holds_urlPath fun _ => ?_
  split
  · exact F.holds_withoutContent _
  · exact holds_writeRedirect _

/-- A frame holds of every single success handler that it admits. -/
theorem holds_answer_give {a : Success.Answer} (h : F.AdmitsAnswer a)
    (principal : Option Principal) : F.Holds (a.give principal) := by
  cases a with
  | redirect url => exact holds_writeRedirect _
  | status code => exact F.holds_withoutContent _
  | negotiating loginPath => exact holds_writeNegotiated loginPath
  | recording name code =>
      exact holds_bind (F.holds_record _) fun _ => F.holds_restate fun _ => rfl
  | failing message => exact F.holds_stop _
  | custom collaborator => exact holds_engage h principal
  | unawaited typeName => exact F.holds_stop _
  | foreign value => exact F.holds_stop _

/-- A frame holds of every success handler of whose answers it admits each. -/
theorem holds_give {success : Success} (h : ∀ a ∈ success.answers, F.AdmitsAnswer a)
    (principal : Option Principal) : F.Holds (success.give principal) :=
  holds_dispatch F.holds_ask success fun a ha => holds_answer_give (h a ha) principal

end Answers

/-! ## The frames of the library -/

/-- The frame of matchers: calls are recorded and nothing else happens. -/
def asking : Frame where
  Rel e e' := ∃ calls, e' = { e with calls := e.calls ++ calls }
  refl e := ⟨[], by simp⟩
  trans := by
    rintro e₁ e₂ e₃ ⟨calls, rfl⟩ ⟨calls', rfl⟩
    exact ⟨calls ++ calls', by simp⟩
  recorded e call := ⟨[call], rfl⟩

/-- Where only calls are recorded, the calls tell the exchange. -/
theorem eq_of_asking {e e' : Exchange} {calls : List Call} (h : asking.Rel e e')
    (hcalls : e'.calls = e.calls ++ calls) : e' = { e with calls := e.calls ++ calls } := by
  obtain ⟨asked, rfl⟩ := h
  rw [List.append_cancel_left hcalls]

/-- The frame of what can be observed: calls and log records are only added, and no part but the
stage itself speaks through the logger of completed sign-outs. -/
def onward : Frame where
  Rel e e' :=
    e.calls <+: e'.calls ∧
      ∃ others, e'.records = e.records ++ others ∧ ∀ r ∈ others, r.logger ≠ Stage.logger
  refl e := ⟨List.prefix_refl _, [], by simp, by simp⟩
  trans := by
    rintro e₁ e₂ e₃ ⟨hcalls, others, hrecords, hothers⟩ ⟨hcalls', others', hrecords', hothers'⟩
    refine ⟨hcalls.trans hcalls', others ++ others', ?_, ?_⟩
    · rw [hrecords', hrecords, List.append_assoc]
    · intro r hr
      rcases List.mem_append.mp hr with hr | hr
      · exact hothers r hr
      · exact hothers' r hr
  recorded e call := ⟨List.prefix_append _ _, [], by simp, by simp⟩

instance : onward.AllowsWork where
  answered e response := ⟨List.prefix_refl _, [], by simp, by simp⟩
  deleted e key := ⟨List.prefix_refl _, [], by simp, by simp⟩
  removed e set member := ⟨List.prefix_refl _, [], by simp, by simp⟩
  logged e entry hentry := by
    refine ⟨List.prefix_refl _, [entry], rfl, ?_⟩
    intro r hr
    rw [List.mem_singleton.mp hr, hentry]
    decide

theorem onward_admitsDeeds (c : Collaborator) : onward.AdmitsDeeds c :=
  fun _ _ => ⟨List.prefix_append _ _, [], by simp [Deed.applyTo], by simp⟩

theorem onward_admits (a : Handler.Action) : onward.Admits a :=
  admits_of_deeds (fun _ _ _ _ => ⟨List.prefix_refl _, [], by simp, by simp⟩)
    fun collaborator _ => onward_admitsDeeds collaborator

theorem onward_admitsAnswer (a : Success.Answer) : onward.AdmitsAnswer a :=
  admitsAnswer_of_deeds fun collaborator _ => onward_admitsDeeds collaborator

theorem onward_holds_perform (handler : Handler) (principal : Option Principal) :
    onward.Holds (handler.perform principal) :=
  holds_perform (fun a _ => onward_admits a) principal

theorem onward_holds_give (success : Success) (principal : Option Principal) :
    onward.Holds (success.give principal) :=
  holds_give (fun a _ => onward_admitsAnswer a) principal

/-- The frame of a part of the request: it stays as it was. -/
def keeping {γ : Type} (part : Request → γ) : Frame where
  Rel e e' := part e'.request = part e.request
  refl _ := rfl
  trans h h' := h'.trans h
  recorded _ _ := rfl

instance {γ : Type} (part : Request → γ) : (keeping part).AllowsWork where
  answered _ _ := rfl
  deleted _ _ := rfl
  removed _ _ _ := rfl
  logged _ _ _ := rfl

end Frame

end SignOut
