import SignOut.Proofs.Parts

/-!
# Runs that publish nothing

Among the calls that a run records are those that hand an event to a publisher.  One kind of part
only makes them: the handler that publishes the event of a sign-out.  Everything else in the library
is discreet, that is, it leaves the events as they are, whether it completes or stops half-way; and
so is everything that is combined from discreet parts.  The frames cannot say this, because they
allow every call to be recorded.
-/

namespace SignOut

/-! ## Events among the calls -/

/-- The event that a call hands to a publisher. -/
def Call.event? : Call → Option Event
  | .published event => some event
  | _ => none

namespace Exchange

/-- The events that were handed to publishers, in their order. -/
def events (e : Exchange) : List Event :=
  e.calls.filterMap Call.event?

variable {e e' : Exchange} {own : List Call}

/-- Further calls add the events among them. -/
theorem events_eq_append (h : e'.calls = e.calls ++ own) :
    e'.events = e.events ++ own.filterMap Call.event? := by
  unfold events
  rw [h, List.filterMap_append]

/-- Further calls that hand over no event add none. -/
theorem events_eq_of_calls (h : e'.calls = e.calls ++ own)
    (hown : ∀ call ∈ own, call.event? = none) : e'.events = e.events := by
  rw [events_eq_append h, List.filterMap_eq_nil_iff.mpr hown, List.append_nil]

end Exchange

/-! ## Discreet runs -/

namespace Run

variable {α β ι : Type}

/-- A run leaves the events as they were, whether it completes or not. -/
def Discreet (action : Run α) : Prop :=
  ∀ e, (exec action e).2.events = e.events

/-- What a discreet run leaves has the events that it found. -/
theorem Discreet.events_eq {action : Run α} (h : Discreet action) {e e' : Exchange}
    {result : Except Fault α} (hrun : exec action e = (result, e')) : e'.events = e.events := by
  have hevents := h e
  rw [hrun] at hevents
  exact hevents

theorem discreet_pure (a : α) : Discreet (pure a) :=
  fun _ => rfl

theorem discreet_stop (fault : Fault) : Discreet (stop fault : Run α) :=
  fun _ => rfl

theorem discreet_get : Discreet (get : Run Exchange) :=
  fun _ => rfl

theorem discreet_request : Discreet request :=
  fun _ => rfl

theorem discreet_modifyRequest (f : Request → Request) : Discreet (modifyRequest f) :=
  fun _ => rfl

theorem discreet_modifyResponse (f : Response → Response) : Discreet (modifyResponse f) :=
  fun _ => rfl

theorem discreet_log (entry : LogRecord) : Discreet (log entry) :=
  fun _ => rfl

theorem discreet_record {call : Call} (h : call.event? = none) : Discreet (record call) := by
  intro e
  have hcalls : (exec (record call) e).2.calls = e.calls ++ [call] := rfl
  refine Exchange.events_eq_of_calls hcalls fun other hmem => ?_
  rw [List.mem_singleton.mp hmem]
  exact h

/-- A sequence is discreet if both its halves are; if the first stops, it was all that ran. -/
theorem discreet_bind {action : Run α} {next : α → Run β} (haction : Discreet action)
    (hnext : ∀ a, Discreet (next a)) : Discreet (action >>= next) := by
  intro e
  rw [exec_bind]
  rcases h : exec action e with ⟨result, e₁⟩
  have hfirst : e₁.events = e.events := haction.events_eq h
  cases result with
  | ok a => exact (hnext a e₁).trans hfirst
  | error fault => exact hfirst

/-- Parts that are run one after another are discreet if each of them is. -/
theorem discreet_forM {act : ι → Run PUnit} {parts : List ι}
    (h : ∀ part ∈ parts, Discreet (act part)) : Discreet (parts.forM act) := by
  induction parts with
  | nil => exact discreet_pure PUnit.unit
  | cons part rest ih =>
      exact discreet_bind (h part List.mem_cons_self) fun _ =>
        ih fun part hmem => h part (List.mem_cons_of_mem _ hmem)

theorem discreet_urlPath : Discreet urlPath := by
  refine discreet_bind discreet_request fun r => ?_
  split
  · exact discreet_pure _
  · exact discreet_stop _

theorem discreet_header? (name : String) : Discreet (header? name) := by
  refine discreet_bind discreet_request fun r => ?_
  split
  · exact discreet_pure _
  · exact discreet_stop _

theorem discreet_requireLatin1 (text : String) : Discreet (requireLatin1 text) := by
  unfold requireLatin1
  split
  · exact discreet_pure _
  · exact discreet_stop _

theorem discreet_setHeader (name value : String) : Discreet (setHeader name value) :=
  discreet_bind (discreet_requireLatin1 value) fun _ => discreet_modifyResponse _

theorem discreet_addHeader (name value : String) : Discreet (addHeader name value) :=
  discreet_bind (discreet_requireLatin1 _) fun _ =>
    discreet_bind (discreet_requireLatin1 value) fun _ => discreet_modifyResponse _

theorem discreet_expireCookie (name : String) (path domain : Option String) :
    Discreet (expireCookie name path domain) := by
  unfold expireCookie
  split
  · exact discreet_stop _
  split
  · exact discreet_stop _
  refine discreet_bind discreet_get fun e => ?_
  split
  · exact discreet_stop _
  · exact discreet_bind (discreet_requireLatin1 _) fun _ => discreet_modifyResponse _

theorem discreet_deleteKey (key : String) : Discreet (deleteKey key) := by
  unfold deleteKey
  refine discreet_bind (discreet_record rfl) fun _ => discreet_bind discreet_get fun e => ?_
  split
  · exact discreet_stop _
  · exact discreet_bind (fun _ => rfl) fun _ => discreet_pure _

theorem discreet_removeMember (set member : String) : Discreet (removeMember set member) := by
  unfold removeMember
  refine discreet_bind (discreet_record rfl) fun _ => discreet_bind discreet_get fun e => ?_
  split
  · exact discreet_stop _
  · exact fun _ => rfl

end Run

open Run

/-! ## Discreet parts -/

/-- A matcher of the application hands no event to a publisher. -/
def Observer.Discreet (o : Observer) : Prop :=
  ∀ r, ∀ call ∈ o.calls r, call.event? = none

/-- A handler or success handler of the application hands no event to a publisher. -/
def Collaborator.Discreet (c : Collaborator) : Prop :=
  ∀ principal e, ∀ call ∈ (c.act principal e).calls, call.event? = none

/-- A part of the application's own hands no event to a publisher. -/
def Part.Discreet : Part → Prop
  | .matcher (.custom observer) => observer.Discreet
  | .handler (.custom collaborator) => collaborator.Discreet
  | .success (.custom collaborator) => collaborator.Discreet
  | _ => True

theorem Observer.Discreet.discreet_ask {o : Observer} (h : o.Discreet) : Run.Discreet o.ask := by
  intro e
  rw [Observer.exec_ask]
  exact Exchange.events_eq_of_calls rfl (h e.request)

theorem Collaborator.Discreet.discreet_engage {c : Collaborator} (h : c.Discreet)
    (principal : Option Principal) : Run.Discreet (c.engage principal) := by
  intro e
  rw [Collaborator.exec_engage]
  exact Exchange.events_eq_of_calls rfl (h principal e)

/-! ## Matchers -/

namespace Matcher

theorem discreet_atom_ask {a : Atom} (h : (Part.matcher a).Discreet) : Discreet a.ask := by
  cases a with
  | logout target methods =>
      exact discreet_bind discreet_urlPath fun _ =>
        discreet_bind discreet_request fun _ => discreet_pure _
  | path target method =>
      cases method with
      | none => exact discreet_bind discreet_urlPath fun _ => discreet_pure _
      | some method =>
          refine discreet_bind discreet_request fun r => ?_
          split
          · exact discreet_bind discreet_urlPath fun _ => discreet_pure _
          · exact discreet_pure _
  | everything => exact discreet_pure true
  | header name value =>
      refine discreet_bind (discreet_header? name) fun actual => ?_
      split
      · exact discreet_pure _
      · exact discreet_pure _
      · exact discreet_pure _
  | media matcher => exact discreet_bind (discreet_header? "accept") fun _ => discreet_pure _
  | probe name answer =>
      refine discreet_bind (discreet_record rfl) fun _ => ?_
      split
      · exact discreet_pure _
      · exact discreet_stop _
  | custom observer => exact Observer.Discreet.discreet_ask h
  | foreign value => exact discreet_stop _

/-- Asking parts one after another is discreet if asking each of them is. -/
theorem discreet_askWhile {ι : Type} {act : ι → Run Bool} {answer : Bool} {parts : List ι}
    (h : ∀ part ∈ parts, Discreet (act part)) : Discreet (Formula.askWhile answer act parts) := by
  induction parts with
  | nil => exact discreet_pure answer
  | cons part rest ih =>
      refine discreet_bind (h part List.mem_cons_self) fun given => ?_
      split
      · exact ih fun part hmem => h part (List.mem_cons_of_mem _ hmem)
      · exact discreet_pure given

/-- A matcher is discreet if its leaves are. -/
theorem discreet_ask {matcher : Matcher} (h : ∀ part ∈ matcher.toParts, part.Discreet) :
    Discreet matcher.ask := by
  have hleaves : ∀ a ∈ matcher.leaves, (Part.matcher a).Discreet := fun a ha =>
    h _ (Matcher.mem_toParts.mpr ⟨a, ha, rfl⟩)
  clear h
  show Discreet (matcher.eval Atom.ask)
  -- a combination asks its parts in order, as long as the answer is open
  induction matcher using Formula.induction with
  | atom a => exact discreet_atom_ask (hleaves a (List.mem_singleton_self a))
  | all parts ih =>
      show Discreet (Formula.evalAll Atom.ask parts)
      rw [Formula.evalAll_eq_askWhile]
      exact discreet_askWhile fun part hmem => ih part hmem fun a ha =>
        hleaves a (Formula.mem_leavesOf.mpr ⟨part, hmem, ha⟩)
  | any parts ih =>
      show Discreet (Formula.evalAny Atom.ask parts)
      rw [Formula.evalAny_eq_askWhile]
      exact discreet_askWhile fun part hmem => ih part hmem fun a ha =>
        hleaves a (Formula.mem_leavesOf.mpr ⟨part, hmem, ha⟩)
  | negation part ih => exact discreet_bind (ih hleaves) fun _ => discreet_pure _

end Matcher

/-! ## Handlers -/

namespace Handler

variable {principal : Option Principal}

theorem discreet_expireCookies (path domain : Option String) (names : List String) :
    Discreet (expireCookies path domain names) := by
  rw [expireCookies_eq_forM]
  exact discreet_forM fun name _ => discreet_expireCookie name path domain

theorem discreet_removeSession (s : SessionRemoval) (principal : Option Principal) :
    Discreet (removeSession s principal) := by
  have hindex : ∀ id, Discreet (removeFromIndex s principal id) := by
    intro id
    unfold removeFromIndex
    split
    · exact discreet_pure _
    · exact discreet_removeMember _ _
  unfold removeSession
  refine discreet_bind discreet_request fun r => ?_
  split
  · exact discreet_pure _
  split
  · exact discreet_pure _
  exact discreet_bind (discreet_deleteKey _) fun _ =>
    discreet_bind (hindex _) fun _ => discreet_log _

theorem discreet_clearToken (repository : TokenRepository) : Discreet (clearToken repository) := by
  unfold clearToken
  refine discreet_bind discreet_urlPath fun path => discreet_bind (discreet_record rfl) fun _ => ?_
  split
  · exact discreet_pure _
  · exact discreet_expireCookie _ _ _

theorem discreet_addHeaders (lines : List HeaderLine) : Discreet (addHeaders lines) := by
  induction lines with
  | nil => exact discreet_pure ()
  | cons line rest ih => exact discreet_bind (discreet_addHeader _ _) fun _ => ih

theorem discreet_runRecording (h : RecordingHandler) (principal : Option Principal) :
    Discreet (runRecording h principal) := by
  have hsession : Discreet (recordSession h) := by
    unfold recordSession
    split
    · exact discreet_pure _
    · exact discreet_bind discreet_request fun _ => discreet_record rfl
  unfold runRecording
  exact discreet_bind (discreet_record rfl) fun _ => discreet_bind hsession fun _ =>
    discreet_bind (discreet_modifyResponse _) fun _ =>
      discreet_bind (discreet_addHeaders _) fun _ => discreet_modifyResponse _

/-- Every single handler is discreet but the one that publishes. -/
theorem discreet_action_perform {a : Action} (h : (Part.handler a).Discreet)
    (hnone : ∀ publisher, a ≠ .publishEvent publisher) : Discreet (a.perform principal) := by
  cases a with
  | expireCookies names path domain => exact discreet_expireCookies path domain names
  | clearContext session authentication => exact discreet_modifyRequest _
  | removeSession removal => exact discreet_removeSession removal principal
  | clearToken repository => exact discreet_clearToken repository
  | publishEvent publisher => exact absurd rfl (hnone publisher)
  | recording handler => exact discreet_runRecording handler principal
  | failing message => exact discreet_bind (discreet_record rfl) fun _ => discreet_stop _
  | forgetUser => exact discreet_record rfl
  | custom collaborator => exact Collaborator.Discreet.discreet_engage h principal
  | unawaited typeName => exact discreet_stop _
  | foreign value => exact discreet_stop _

/-- A handler is discreet if none of its single handlers publishes, at whatever depth. -/
theorem discreet_perform {handler : Handler} (h : ∀ part ∈ handler.toParts, part.Discreet)
    (hnone : ∀ publisher, .publishEvent publisher ∉ handler.actions) :
    Discreet (handler.perform principal) := by
  have hperform : handler.perform principal = handler.actions.forM (Action.perform principal) :=
    Chain.run_eq_forM _ handler
  rw [hperform]
  refine discreet_forM fun a ha => discreet_action_perform ?_ ?_
  · exact h _ (Handler.mem_toParts.mpr ⟨a, ha, rfl⟩)
  · rintro publisher rfl
    exact hnone publisher ha

end Handler

/-! ## Success handlers -/

namespace Success

variable {principal : Option Principal}

theorem discreet_writeRedirect (url : Option String) : Discreet (writeRedirect url) := by
  unfold writeRedirect
  refine discreet_bind (discreet_modifyResponse _) fun _ => ?_
  split
  · exact discreet_stop _
  · exact discreet_setHeader _ _

theorem discreet_writeNegotiated (loginPath : String) : Discreet (writeNegotiated loginPath) := by
  have hresolve : Discreet resolve :=
    discreet_bind (discreet_header? _) fun _ =>
      discreet_bind (discreet_header? _) fun _ => discreet_pure _
  unfold writeNegotiated
  refine discreet_bind hresolve fun outcome => discreet_bind discreet_urlPath fun _ => ?_
  split
  · exact discreet_modifyResponse _
  · exact discreet_writeRedirect _

theorem discreet_answer_give {a : Answer} (h : (Part.success a).Discreet) :
    Discreet (a.give principal) := by
  cases a with
  | redirect url => exact discreet_writeRedirect _
  | status code => exact discreet_modifyResponse _
  | negotiating loginPath => exact discreet_writeNegotiated loginPath
  | recording name code =>
      exact discreet_bind (discreet_record rfl) fun _ => discreet_modifyResponse _
  | failing message => exact discreet_stop _
  | custom collaborator => exact Collaborator.Discreet.discreet_engage h principal
  | unawaited typeName => exact discreet_stop _
  | foreign value => exact discreet_stop _

/-- Routes are discreet if their matchers, their targets and what stands behind them are. -/
theorem discreet_runRoutes {routes : List (Matcher × Success)} {otherwise : Run Unit}
    (hroutes : ∀ route ∈ routes, Discreet route.1.ask ∧ Discreet (route.2.give principal))
    (hotherwise : Discreet otherwise) :
    Discreet (Dispatch.runRoutes Matcher.ask (Answer.give principal) otherwise routes) := by
  induction routes with
  | nil => exact hotherwise
  | cons route rest ih =>
      obtain ⟨matcher, target⟩ := route
      obtain ⟨hmatcher, htarget⟩ := hroutes (matcher, target) List.mem_cons_self
      refine discreet_bind hmatcher fun selected => ?_
      cases selected with
      | true => exact htarget
      | false => exact ih fun route hmem => hroutes route (List.mem_cons_of_mem _ hmem)

/-- A success handler is discreet if its parts are. -/
theorem discreet_give {success : Success} (h : ∀ part ∈ success.toParts, part.Discreet) :
    Discreet (success.give principal) := by
  induction success using Dispatch.induction with
  | answer a => exact discreet_answer_give (h _ (List.mem_singleton_self _))
  | routed routes fallback ihroutes ihfallback =>
      refine discreet_runRoutes (fun route hmem => ⟨?_, ?_⟩) ?_
      · exact Matcher.discreet_ask fun part hpart => h part
          (List.mem_append_left _ (mem_partsOf.mpr ⟨route, hmem, Or.inl hpart⟩))
      · exact ihroutes route hmem fun part hpart => h part
          (List.mem_append_left _ (mem_partsOf.mpr ⟨route, hmem, Or.inr hpart⟩))
      · exact ihfallback fun part hpart => h part (List.mem_append_right _ hpart)

end Success

end SignOut
