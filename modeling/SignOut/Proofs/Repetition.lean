import SignOut.Proofs.Bond
import SignOut.Proofs.Clearing
import SignOut.Proofs.Removal

/-!
# Signing out twice

A sign-out that was answered can be repeated.  The second run comes with the session that the first
one left and for whoever is signed in after it, so it may find less to do; but it never finds
anything else to do.  It is compared with the first run handler by handler.  The clock and the
response are the same on both sides throughout, whereas the second run has from its beginning the
request and the store with which the first one ends: every clearing in the chain was made on that
request, and every removal from that store, so the second run changes neither of them.
-/

namespace SignOut

/-! ## Requests that were cleared -/

namespace Handler

variable (session authentication : Bool) (r : Request)

@[simp] theorem outline_clearedRequest :
    (clearedRequest session authentication r).outline = r.outline := by
  cases session <;> cases authentication <;> rfl

/-- Two clearings are one that goes as far as either of them. -/
theorem clearedRequest_clearedRequest (session' authentication' : Bool) :
    clearedRequest session' authentication' (clearedRequest session authentication r) =
      clearedRequest (session || session') (authentication || authentication') r := by
  cases session <;> cases authentication <;> cases session' <;> cases authentication' <;>
    simp [clearedRequest, Function.comp_def]

/-- A clearing that was made leaves nothing for a second one to do, whatever is cleared after it. -/
theorem clearedRequest_absorb (session' authentication' : Bool) :
    clearedRequest session authentication
        (clearedRequest session' authentication' (clearedRequest session authentication r)) =
      clearedRequest session' authentication' (clearedRequest session authentication r) := by
  have habsorb (b b' : Bool) : (b || (b' || b)) = (b || b') := by
    rw [Bool.or_comm b', ← Bool.or_assoc, Bool.or_self]
  rw [clearedRequest_clearedRequest, clearedRequest_clearedRequest, clearedRequest_clearedRequest,
    habsorb, habsorb]

/-- After a clearing nobody is signed in, or still the same one. -/
theorem principal?_clearedRequest_eq :
    (clearedRequest session authentication r).principal? = none ∨
      (clearedRequest session authentication r).principal? = r.principal? := by
  cases authentication with
  | true => exact Or.inl (principal?_clearedRequest session r)
  | false => exact Or.inr (by cases session <;> rfl)

end Handler

/-! ## Removals of the stored session -/

namespace SessionRemoval

variable (s : SessionRemoval)

/-- No session id is ever taken from a cookie. -/
def IgnoresCookies : Prop :=
  s.cookieName.getD "" = ""

/-- The entries of a session in the index of its user, if the principal has one. -/
def indexed (principal : Option Principal) (id : String) : List Removal :=
  match principal.bind Principal.indexId? with
  | none => []
  | some user => [.member (s.indexName user) id]

/-- What is removed from the session store for a principal and a request. -/
def removals (principal : Option Principal) (r : Request) : List Removal :=
  match s.sessionId? r with
  | none => []
  | some id => if id = "" then [] else .record (s.recordKey id) :: s.indexed principal id

variable {s}

theorem cookieId?_eq_none (h : s.IgnoresCookies) (r : Request) : s.cookieId? r = none := by
  unfold cookieId?
  unfold IgnoresCookies at h
  split
  · rfl
  · rename_i name hname
    rw [hname] at h
    exact if_pos h

/-- A request that was cleared has no session id, or still the same one. -/
theorem sessionId?_clearedRequest (h : s.IgnoresCookies) (session authentication : Bool)
    (r : Request) :
    s.sessionId? (Handler.clearedRequest session authentication r) = none ∨
      s.sessionId? (Handler.clearedRequest session authentication r) = s.sessionId? r := by
  unfold sessionId? entry?
  -- without cookies it is the session alone that holds an id
  rw [cookieId?_eq_none h, cookieId?_eq_none h, Handler.session_clearedRequest]
  cases session with
  | false => exact Or.inr rfl
  | true =>
      left
      cases s.sessionKey with
      | none => rfl
      | some key =>
          cases r.session with
          | none => rfl
          | some entries => rfl

theorem indexed_subset {principal principal' : Option Principal}
    (hprincipal : principal' = none ∨ principal' = principal) (id : String) :
    s.indexed principal' id ⊆ s.indexed principal id := by
  rcases hprincipal with rfl | rfl
  · exact List.nil_subset _
  · exact List.Subset.refl _

/-- For a request that was cleared there is nothing to remove but what there was before. -/
theorem removals_clearedRequest_subset (h : s.IgnoresCookies)
    {principal principal' : Option Principal}
    (hprincipal : principal' = none ∨ principal' = principal) (session authentication : Bool)
    (r : Request) :
    s.removals principal' (Handler.clearedRequest session authentication r) ⊆
      s.removals principal r := by
  unfold removals
  rcases sessionId?_clearedRequest h session authentication r with hid | hid
  · rw [hid]
    exact List.nil_subset _
  · rw [hid]
    split
    · exact List.Subset.refl _
    split
    · exact List.Subset.refl _
    · exact List.cons_subset_cons _ (indexed_subset hprincipal _)

end SessionRemoval

namespace Handler

variable (s : SessionRemoval) (principal : Option Principal) (e : Exchange)

theorem removeFromIndex_cases (id : String) :
    (∃ calls, Run.exec (removeFromIndex s principal id) e =
        (.ok (), { e with calls, store := e.store.clearAll (s.indexed principal id) }) ∧
      ∀ removal ∈ s.indexed principal id, e.store.refuses ≠ some removal.operation) ∨
    ∃ fault e', Run.exec (removeFromIndex s principal id) e = (.error fault, e') ∧
      ∃ removal ∈ s.indexed principal id, e.store.refuses = some removal.operation := by
  unfold removeFromIndex SessionRemoval.indexed
  cases principal.bind Principal.indexId? with
  | none => exact Or.inl ⟨_, rfl, fun _ h => absurd h List.not_mem_nil⟩
  | some user =>
      dsimp only
      rw [Run.exec_removeMember]
      split
      · rename_i hrefuses
        exact Or.inr ⟨_, _, rfl, _, List.mem_singleton_self _, hrefuses⟩
      · rename_i hallows
        refine Or.inl ⟨_, rfl, fun removal hmem => ?_⟩
        rw [List.mem_singleton.mp hmem]
        exact hallows

/-- The stored session is removed and nothing else is done, or the store refuses one of the
removals. -/
theorem removeSession_cases :
    (∃ calls records, Run.exec (removeSession s principal) e =
        (.ok (), { e with
          calls, records, store := e.store.clearAll (s.removals principal e.request) }) ∧
      ∀ removal ∈ s.removals principal e.request, e.store.refuses ≠ some removal.operation) ∨
    ∃ fault e', Run.exec (removeSession s principal) e = (.error fault, e') ∧
      ∃ removal ∈ s.removals principal e.request, e.store.refuses = some removal.operation := by
  unfold removeSession SessionRemoval.removals
  rw [Run.exec_bind_of_ok (Run.exec_request e)]
  cases s.sessionId? e.request with
  | none => exact Or.inl ⟨_, _, rfl, fun _ h => absurd h List.not_mem_nil⟩
  | some id =>
      dsimp only
      split
      · exact Or.inl ⟨_, _, rfl, fun _ h => absurd h List.not_mem_nil⟩
      -- the record goes first, and where the store refuses that, the index is not touched
      have hkey := Run.exec_deleteKey (s.recordKey id) e
      split at hkey
      · rename_i hrefuses
        exact Or.inr ⟨_, _, Run.exec_bind_of_error hkey, _, List.mem_cons_self, hrefuses⟩
      rename_i hallows
      rw [Run.exec_bind_of_ok hkey]
      rcases removeFromIndex_cases s principal _ id with
        ⟨calls, hindex, hall⟩ | ⟨fault, e', hindex, removal, hmem, hrefuses⟩
      · rw [Run.exec_bind_of_ok hindex]
        refine Or.inl ⟨_, _, rfl, fun removal hmem => ?_⟩
        rcases List.mem_cons.mp hmem with rfl | hmem
        · exact hallows
        · exact hall removal hmem
      · exact Or.inr ⟨_, _, Run.exec_bind_of_error hindex, removal, List.mem_cons_of_mem _ hmem,
          hrefuses⟩

end Handler

/-! ## What a run takes away -/

/-- An exchange is left behind in which the request was cleared so far and something was removed
from the store. -/
structure Exchange.Sheds (e e' : Exchange) : Prop where
  request : ∃ session authentication,
    e'.request = Handler.clearedRequest session authentication e.request
  store : ∃ removals, e'.store = e.store.clearAll removals

theorem Exchange.Sheds.of_eq {e e' : Exchange} (hrequest : e'.request = e.request)
    (hstore : e'.store = e.store) : e.Sheds e' :=
  ⟨⟨false, false, hrequest⟩, [], hstore⟩

/-- The frame of runs that only take away. -/
def Frame.shedding : Frame where
  Rel := Exchange.Sheds
  refl _ := .of_eq rfl rfl
  trans := by
    rintro e₁ e₂ e₃ ⟨⟨session, authentication, hrequest⟩, removals, hstore⟩
      ⟨⟨session', authentication', hrequest'⟩, removals', hstore'⟩
    refine ⟨⟨session || session', authentication || authentication', ?_⟩, removals ++ removals', ?_⟩
    · rw [hrequest', hrequest, Handler.clearedRequest_clearedRequest]
    · rw [hstore', hstore, Store.clearAll_append]
  recorded _ _ := .of_eq rfl rfl

instance : Frame.shedding.AllowsWork where
  answered _ _ := .of_eq rfl rfl
  deleted _ key := ⟨⟨false, false, rfl⟩, [.record key], rfl⟩
  removed _ set member := ⟨⟨false, false, rfl⟩, [.member set member], rfl⟩
  logged _ _ _ := .of_eq rfl rfl

/-! ## Parts that can be repeated -/

/-- A collaborator of the application works on the response alone, and neither the session nor the
user nor the store has a say in what it does. -/
structure Collaborator.Steady (c : Collaborator) : Prop where
  spares : c.SparesContext
  store_eq : ∀ principal e, (c.act principal e).store = e.store
  act_eq : ∀ principal principal' {e f : Exchange}, f.now = e.now → f.response = e.response →
    f.request.outline = e.request.outline →
    (c.act principal' f).response = (c.act principal e).response ∧
      (c.act principal' f).outcome = (c.act principal e).outcome

/-- A matcher of the application answers without regard to the session and the user. -/
def Observer.Steady (o : Observer) : Prop :=
  ∀ {r r' : Request}, r'.outline = r.outline → o.answer r' = o.answer r

/-- A part of the application is steady, and session ids are not taken from cookies: a cookie stays
in the request after the session was cleared.  All other parts of the library can be repeated. -/
def Part.Repeatable : Part → Prop
  | .matcher (.custom observer) => observer.Steady
  | .handler (.removeSession removal) => removal.IgnoresCookies
  | .handler (.custom collaborator) => collaborator.Steady
  | .success (.custom collaborator) => collaborator.Steady
  | _ => True

namespace Frame

theorem shedding_admitsDeeds {c : Collaborator} (h : c.Steady) : shedding.AdmitsDeeds c :=
  fun principal e => .of_eq (h.spares.request_applyTo principal e) (h.store_eq principal e)

theorem shedding_admits {a : Handler.Action} (h : (Part.handler a).Repeatable) :
    shedding.Admits a := by
  refine admits_of_deeds ?_ ?_
  · intro session authentication _ e
    exact ⟨⟨session.isOn, authentication.isOn, rfl⟩, [], rfl⟩
  · rintro collaborator rfl
    exact shedding_admitsDeeds h

theorem shedding_admitsAnswer {a : Success.Answer} (h : (Part.success a).Repeatable) :
    shedding.AdmitsAnswer a := by
  refine admitsAnswer_of_deeds ?_
  rintro collaborator rfl
  exact shedding_admitsDeeds h

end Frame

/-! ## The second run beside the first -/

/-- An exchange of a second run, beside one of the first run: its clock and response are the same,
and its request and store are those that the first run leaves in the end. -/
structure Exchange.Repeats (final e f : Exchange) : Prop where
  now_eq : f.now = e.now
  response_eq : f.response = e.response
  outline_eq : f.request.outline = e.request.outline
  request_eq : f.request = final.request
  store_eq : f.store = final.store

namespace Bond

variable {p p' : Option Principal} {final : Exchange}

/-- The bond of two runs for requests that agree outside the session and the user. -/
def alike (p p' : Option Principal) : Bond p p' where
  Rel e f := f.request.outline = e.request.outline
  outline_eq h := h
  recorded _ _ _ h := h

/-- The bond of a second run, which changes neither the request nor the store. -/
def repeating (final : Exchange) (p p' : Option Principal) : Bond p p' where
  Rel := Exchange.Repeats final
  outline_eq h := h.outline_eq
  recorded _ _ _ h := { h with }

instance : (repeating final p p').AllowsAnswers where
  now_eq h := h.now_eq
  response_eq h := h.response_eq
  answered write _ _ h := { h with response_eq := congrArg write h.response_eq }
  logged _ _ _ h := { h with }

theorem repeating_holds_engage {c : Collaborator} (h : c.Steady) :
    (repeating final p p').Holds (c.engage p) (c.engage p') := by
  intro e f hrel
  obtain ⟨hresponse, houtcome⟩ := h.act_eq p p' hrel.now_eq hrel.response_eq hrel.outline_eq
  have hrequest := h.spares.request_applyTo p e
  have hrequest' := h.spares.request_applyTo p' f
  have hdone : Exchange.Repeats final ((c.act p e).applyTo e) ((c.act p' f).applyTo f) :=
    { now_eq := hrel.now_eq
      response_eq := hresponse
      outline_eq := by rw [hrequest, hrequest', hrel.outline_eq]
      request_eq := hrequest'.trans hrel.request_eq
      store_eq := (h.store_eq p' f).trans hrel.store_eq }
  rw [Collaborator.exec_engage, Collaborator.exec_engage]
  exact ⟨houtcome, hdone⟩

/-- Matchers answer the same to the second request: they disregard the session and the user. -/
theorem admits_matcher {B : Bond p p'} {a : Matcher.Atom} (h : (Part.matcher a).Repeatable) :
    B.Admits (.matcher a) := by
  cases a with
  | custom observer => exact holds_observe fun hrel => h (B.outline_eq hrel)
  | _ => trivial

theorem repeating_admits_success {a : Success.Answer} (h : (Part.success a).Repeatable) :
    (repeating final p p').Admits (.success a) := by
  cases a with
  | custom collaborator => exact repeating_holds_engage h
  | _ => trivial

/-! ## Single handlers -/

/-- A clearing that the first run made finds nothing to clear in the request with which that run
ends. -/
theorem repeat_clearContext {session authentication : Switch} {e e₁ f : Exchange}
    (hrun : Run.exec (Handler.Action.perform p (.clearContext session authentication)) e =
      (.ok (), e₁)) (hlater : e₁.Sheds final) (hrel : Exchange.Repeats final e f) :
    ∃ f₁, Run.exec (Handler.Action.perform p' (.clearContext session authentication)) f =
      (.ok (), f₁) ∧ Exchange.Repeats final e₁ f₁ := by
  cases hrun
  obtain ⟨⟨session', authentication', hfinal⟩, -⟩ := hlater
  -- the request of the end was cleared by this handler and possibly by later ones
  have hcleared :
      Handler.clearedRequest session.isOn authentication.isOn final.request = final.request := by
    rw [hfinal, Handler.clearedRequest_absorb]
  refine ⟨_, rfl, { hrel with outline_eq := ?_, request_eq := ?_ }⟩
  · simp only [Handler.outline_clearedRequest, hrel.outline_eq]
  · exact (congrArg _ hrel.request_eq).trans hcleared

/-- A removal that the first run made finds nothing to remove from the store with which that run
ends. -/
theorem repeat_removeSession {s : SessionRemoval} (hcookies : s.IgnoresCookies)
    (hprincipal : p' = none ∨ p' = p) {e e₁ f : Exchange}
    (hrun : Run.exec (Handler.removeSession s p) e = (.ok (), e₁)) (hlater : e₁.Sheds final)
    (hrel : Exchange.Repeats final e f) :
    ∃ f₁, Run.exec (Handler.removeSession s p') f = (.ok (), f₁) ∧
      Exchange.Repeats final e₁ f₁ := by
  rcases Handler.removeSession_cases s p e with
    ⟨calls, records, hdone, hallows⟩ | ⟨fault, e', hstop, -⟩
  · cases hdone.symm.trans hrun
    obtain ⟨⟨session, authentication, hrequest⟩, removals, hstore⟩ := hlater
    have hsubset : s.removals p' f.request ⊆ s.removals p e.request := by
      rw [hrel.request_eq, hrequest]
      exact SessionRemoval.removals_clearedRequest_subset hcookies hprincipal _ _ _
    have hkept : f.store.clearAll (s.removals p' f.request) = f.store := by
      rw [hrel.store_eq, hstore, Store.clearAll_comm, Store.clearAll_of_subset _ hsubset]
    -- nothing is left to remove, and what was removed before is not refused now
    rcases Handler.removeSession_cases s p' f with
      ⟨calls', records', hdone', -⟩ | ⟨fault, f', -, removal, hmem, hrefuses⟩
    · rw [hkept] at hdone'
      exact ⟨_, hdone', { hrel with }⟩
    · rw [hrel.store_eq, hstore, Store.refuses_clearAll, Store.refuses_clearAll] at hrefuses
      exact absurd hrefuses (hallows removal (hsubset hmem))
  · cases hstop.symm.trans hrun

/-- A single handler that completed completes again, for the same principal or for nobody. -/
theorem repeat_action {a : Handler.Action} (h : (Part.handler a).Repeatable)
    (hprincipal : p' = none ∨ p' = p) {e e₁ f : Exchange}
    (hrun : Run.exec (a.perform p) e = (.ok (), e₁)) (hlater : e₁.Sheds final)
    (hrel : Exchange.Repeats final e f) :
    ∃ f₁, Run.exec (a.perform p') f = (.ok (), f₁) ∧ Exchange.Repeats final e₁ f₁ := by
  have hadmitted (hadmits : (repeating final p p').Admits (.handler a)) :
      ∃ f₁, Run.exec (a.perform p') f = (.ok (), f₁) ∧ Exchange.Repeats final e₁ f₁ :=
    (holds_action_perform hadmits).exists_exec hrel hrun
  -- only what looks at the session or the store has to know what the first run did afterwards
  cases a with
  | clearContext session authentication => exact repeat_clearContext hrun hlater hrel
  | removeSession removal => exact repeat_removeSession h hprincipal hrun hlater hrel
  | custom collaborator => exact hadmitted (repeating_holds_engage h)
  | _ => exact hadmitted trivial

/-! ## Chains -/

/-- Single handlers that completed in order do so again: what each of them cleared and removed is
still cleared and removed when all of them are through. -/
theorem repeat_inOrder (hprincipal : p' = none ∨ p' = p) {actions : List Handler.Action}
    (h : ∀ a ∈ actions, (Part.handler a).Repeatable) {e e' f : Exchange}
    {blocks : List (List Call)}
    (hrun : Run.InOrder (Handler.Action.perform p) () actions e blocks e')
    (hlater : e'.Sheds final) (hrel : Exchange.Repeats final e f) :
    ∃ f', Run.exec (actions.forM (Handler.Action.perform p')) f = (.ok (), f') ∧
      Exchange.Repeats final e' f' := by
  -- along the list the first run comes closer to its end, while the second one stays there
  induction hrun generalizing f with
  | nil e => exact ⟨f, rfl, hrel⟩
  | @cons a rest e e₁ e' calls blocks haction hcalls hrest ih =>
      have hbehind : ∀ b ∈ rest, (Part.handler b).Repeatable := fun b hb =>
        h b (List.mem_cons_of_mem _ hb)
      have hsheds : e₁.Sheds e' := hrest.rel (F := Frame.shedding) fun b hb =>
        Frame.holds_action_perform (Frame.shedding_admits (hbehind b hb)) p
      obtain ⟨f₁, hagain, hrel₁⟩ := repeat_action (h a List.mem_cons_self) hprincipal haction
        (Frame.shedding.trans hsheds hlater) hrel
      obtain ⟨f', hothers, hrel'⟩ := ih hbehind hlater hrel₁
      exact ⟨f', Run.exec_bind_eq_ok_iff.mpr ⟨(), f₁, hagain, hothers⟩, hrel'⟩

theorem repeat_perform (hprincipal : p' = none ∨ p' = p) {handler : Handler}
    (h : ∀ part ∈ handler.toParts, part.Repeatable) {e e' f : Exchange}
    (hrun : Run.exec (handler.perform p) e = (.ok (), e')) (hlater : e'.Sheds final)
    (hrel : Exchange.Repeats final e f) :
    ∃ f', Run.exec (handler.perform p') f = (.ok (), f') ∧ Exchange.Repeats final e' f' := by
  obtain ⟨blocks, hblocks⟩ := Handler.exec_perform_eq_ok_iff.mp hrun
  have hactions : ∀ a ∈ handler.actions, (Part.handler a).Repeatable := fun a ha =>
    h _ (Handler.mem_toParts.mpr ⟨a, ha, rfl⟩)
  have hchain : handler.perform p' = handler.actions.forM (Handler.Action.perform p') :=
    Chain.run_eq_forM _ handler
  rw [hchain]
  exact repeat_inOrder hprincipal hactions hblocks hlater hrel

end Bond

/-! ## Stages -/

namespace Stage

open SignOut.Configuration (Course)

variable {c : Configuration} {s : Stage} {principal principal' : Option Principal}
  {e e' f : Exchange} {response : Response}

/-- The success handler of a course takes nothing away but what the frame of shedding allows. -/
theorem shedding_admitsAnswer_chosen (hrepeatable : ∀ part ∈ c.parts, part.Repeatable)
    {course : Course} {path : String} (h : course.Completes c principal e path) :
    ∀ a ∈ course.chosen.answers, Frame.shedding.AdmitsAnswer a := fun _ ha =>
  Frame.shedding_admitsAnswer (hrepeatable _ (h.success_mem_parts ha))

/-- A stage whose parts can be repeated only takes away. -/
theorem sheds_of_exec_process (hs : Stage.ofConfiguration c = .ok s)
    (hrepeatable : ∀ part ∈ c.parts, part.Repeatable)
    (h : Run.exec (s.process principal) e = (.ok (some response), e')) : e.Sheds e' := by
  obtain ⟨course, path, hcourse, -, rfl⟩ := completes_of_exec_process hs h
  have hsheds : Frame.shedding.Rel e course.answered := by
    refine rel_of_completes hcourse ?_ (shedding_admitsAnswer_chosen hrepeatable hcourse)
    intro handler hhandler a ha
    exact Frame.shedding_admits (hrepeatable _ (Configuration.handler_mem_parts hhandler ha))
  exact Frame.shedding.trans hsheds (.of_eq rfl rfl)

/-- A stage that answered gives the same answer to the request that it left, for the same principal
or for nobody, and leaves that request and the store as they are. -/
theorem exec_process_again (hs : Stage.ofConfiguration c = .ok s)
    (hrepeatable : ∀ part ∈ c.parts, part.Repeatable)
    (hprincipal : principal' = none ∨ principal' = principal)
    (h : Run.exec (s.process principal) e = (.ok (some response), e')) (hnow : f.now = e.now)
    (hrequest : f.request = e'.request) (hstore : f.store = e'.store) :
    ∃ f', Run.exec (s.process principal') f = (.ok (some response), f') ∧
      f'.request = e'.request ∧ f'.store = e'.store := by
  have houtline : f.request.outline = e.request.outline := by
    obtain ⟨session, authentication, hcleared⟩ := (sheds_of_exec_process hs hrepeatable h).request
    rw [hrequest, hcleared, Handler.outline_clearedRequest]
  obtain ⟨course, path, hcourse, rfl, hended⟩ := completes_of_exec_process hs h
  obtain rfl := Stage.eq_of_ofConfiguration hs
  have hbehind : course.cleared.Sheds e' := by
    rw [hended]
    exact Frame.shedding.trans (rel_answered_of_completes hcourse
      (shedding_admitsAnswer_chosen hrepeatable hcourse)) (.of_eq rfl rfl)
  -- the request is selected again, and its target can be read
  have hmatcher : (Bond.alike principal principal').Holds c.matcher.ask c.matcher.ask := by
    refine Bond.holds_ask fun part hpart => ?_
    obtain ⟨atom, hatom, rfl⟩ := Matcher.mem_toParts.mp hpart
    exact Bond.admits_matcher (hrepeatable _ (Configuration.matcher_mem_parts hatom))
  obtain ⟨f₁, hselected, -⟩ := hmatcher.exists_exec houtline hcourse.recognised.selected
  have hreadable : f₁.request.urlPath = .ok path := by
    rw [urlPath_eq_of_exec_ask hselected, Request.urlPath_eq_of_outline houtline,
      hcourse.recognised.readable]
  -- the handlers complete again, beside those of the first run
  have hopened : Exchange.Repeats e' course.matched.opened f₁.opened := by
    obtain ⟨asked, rfl⟩ := (Frame.asking.holds_ask c.matcher).rel hselected
    rw [hcourse.matched_eq]
    exact ⟨hnow, rfl, houtline, hrequest, hstore⟩
  have hchain : ∀ part ∈ Handler.toParts (.many c.handlers), part.Repeatable := fun part hpart =>
    hrepeatable part (Configuration.mem_parts_of_mem_chain hpart)
  have hhandled := Handler.exec_many_eq_ok_iff.mpr ⟨course.handled, hcourse.handled⟩
  obtain ⟨f₂, hhandled', hcleared⟩ :=
    Bond.repeat_perform hprincipal hchain hhandled hbehind hopened
  -- and so does the success handler, which the same route selects
  have hanswers : (Bond.repeating e' principal principal').Holds
      (Success.give principal (.routed c.routes c.fallback))
      (Success.give principal' (.routed c.routes c.fallback)) := by
    refine Bond.holds_give fun part hpart => ?_
    have hpart' := hrepeatable part (Configuration.mem_parts.mpr (Or.inr (Or.inr hpart)))
    rcases Success.eq_of_mem_toParts hpart with ⟨atom, rfl⟩ | ⟨answer, rfl⟩
    · exact Bond.admits_matcher hpart'
    · exact Bond.repeating_admits_success hpart'
  have hgiven := Success.exec_routed_eq_ok_iff.mpr
    ⟨course.chosen, course.tried, course.routed, hcourse.chosen, hcourse.answered⟩
  obtain ⟨f₃, hgiven', hanswered⟩ := hanswers.exists_exec hcleared hgiven
  have hsignOut := (exec_signOut_eq_ok_iff
    (s := ⟨c, .many c.handlers, .routed c.routes c.fallback⟩) hreadable).mpr
      ⟨f₂, f₃, hhandled', hgiven', hanswered.response_eq.symm, rfl⟩
  exact ⟨_, exec_process_eq_some_iff.mpr ⟨f₁, hselected, hsignOut⟩, hanswered.request_eq,
    hanswered.store_eq⟩

end Stage

namespace StageFilter

variable {c : Configuration} {filter : StageFilter} {e e' f : Exchange} {response : Response}

/-- A sign-out that was answered can be repeated.  The request that it left, served again on the
store that it left and at the same moment, gets the same response, though its session may be empty
by now and nobody may be signed in any more; and this time the session, the user, the user context
and the store stay exactly as they are.  This holds of every filter, whatever its chain is and
wherever in the chain things are cleared or removed, as long as session ids are not taken from
cookies and collaborators of the application are steady. -/
theorem process_again (hs : Stage.ofConfiguration c = .ok filter.bare)
    (hrepeatable : ∀ part ∈ filter.parts, part.Repeatable)
    (h : Run.exec (filter.process e.request.principal?) e = (.ok (some response), e'))
    (hnow : f.now = e.now) (hrequest : f.request = e'.request) (hstore : f.store = e'.store) :
    ∃ f', Run.exec (filter.process f.request.principal?) f = (.ok (some response), f') ∧
      f'.request = e'.request ∧ f'.store = e'.store := by
  obtain ⟨rfl⟩ : filter.bare.configuration = c := by rw [Stage.eq_of_ofConfiguration hs]
  have hentered (g : Exchange) : (filter.entered g).now = g.now ∧
      (filter.entered g).request = g.request ∧ (filter.entered g).store = g.store := by
    cases filter <;> exact ⟨rfl, rfl, rfl⟩
  obtain ⟨hnow_e, hrequest_e, -⟩ := hentered e
  obtain ⟨hnow_f, hrequest_f, hstore_f⟩ := hentered f
  rw [exec_process] at h ⊢
  have hprincipal : f.request.principal? = none ∨
      f.request.principal? = e.request.principal? := by
    obtain ⟨session, authentication, hcleared⟩ :=
      (Stage.sheds_of_exec_process hs hrepeatable h).request
    rw [hrequest, hcleared, hrequest_e]
    exact Handler.principal?_clearedRequest_eq _ _ _
  exact Stage.exec_process_again hs hrepeatable hprincipal h (by rw [hnow_f, hnow_e, hnow])
    (hrequest_f.trans hrequest) (hstore_f.trans hstore)

/-- A configuration that removes the stored session before and after it clears the request, with a
handler of the application in between. -/
def repeatedConfiguration : Configuration :=
  { Stage.sampleConfiguration with
    handlers := [.one (.removeSession .standard),
      .many [.one (.clearContext .on .on), .one (.custom Assembly.sampleAudit)],
      .one (.removeSession .standard)] }

/-- The request of the sample, with two sessions of its user in the store. -/
def indexedExchange : Exchange :=
  { Stage.sampleExchange with
    store :=
      { keys := ["auth_session:s1", "auth_session:s2"]
        sets := [("auth_session:user:u1:global", ["s1", "s2"])], refuses := none } }

theorem process_again_sample :
    ∃ (filter : StageFilter) (response : Response) (e' f' : Exchange),
      Stage.ofConfiguration repeatedConfiguration = .ok filter.bare ∧
      Run.exec (filter.process (some Stage.samplePrincipal)) indexedExchange =
        (.ok (some response), e') ∧
      e'.request.principal? = none ∧ e'.store.keys = ["auth_session:s2"] ∧
      Run.exec (filter.process none)
          { indexedExchange with request := e'.request, store := e'.store } =
        (.ok (some response), f') ∧
      f'.request = e'.request ∧ f'.store = e'.store := by
  have hbuilt : ∃ s, Stage.ofConfiguration repeatedConfiguration = .ok s := ⟨_, rfl⟩
  obtain ⟨s, hs⟩ := hbuilt
  have hrepeatable : ∀ part ∈ (StageFilter.stage s).parts, part.Repeatable := by
    have hparts : (StageFilter.stage s).parts =
        [.matcher (.logout defaultLogoutPath (allowedMethods true)),
          .handler (.removeSession .standard), .handler (.clearContext .on .on),
          .handler (.custom Assembly.sampleAudit), .handler (.removeSession .standard),
          .matcher (.probe "script" (.ok false)), .success (.status (some 204)),
          .matcher (.probe "browser" (.ok true)), .success (.recording "farewell" (some 200)),
          .success (.negotiating defaultLoginPath)] := by
      cases hs
      rfl
    have haudit : Assembly.sampleAudit.Steady :=
      ⟨fun _ _ => ⟨rfl, rfl, rfl⟩, fun _ _ => rfl, fun _ _ _ _ _ hresponse _ => ⟨hresponse, rfl⟩⟩
    have hremoval : SessionRemoval.standard.IgnoresCookies := rfl
    rw [hparts]
    simp [Part.Repeatable, haudit, hremoval]
  have hread : indexedExchange.request.urlPath = .ok defaultLogoutPath :=
    Stage.urlPath_sampleExchange
  have hprocess : ∃ response e', Run.exec
      ((StageFilter.stage s).process indexedExchange.request.principal?) indexedExchange =
        (.ok (some response), e') ∧
        e'.request.principal? = none ∧ e'.store.keys = ["auth_session:s2"] := by
    have hselected : Run.exec s.configuration.matcher.ask indexedExchange =
        (.ok true, indexedExchange) := by
      cases hs
      exact (Run.exec_bind_of_ok (Run.exec_urlPath_of_ok hread)).trans rfl
    cases hs
    exact ⟨_, _, Stage.exec_process_eq_some_iff.mpr ⟨_, hselected,
      (Stage.exec_signOut_eq_ok_iff hread).mpr ⟨_, _, rfl, rfl, rfl, rfl⟩⟩, rfl, rfl⟩
  obtain ⟨response, e', hanswer, hnobody, hkeys⟩ := hprocess
  have hbare : Stage.ofConfiguration repeatedConfiguration = .ok (StageFilter.stage s).bare := hs
  obtain ⟨f', hagain, hkept⟩ := process_again
    (f := { indexedExchange with request := e'.request, store := e'.store }) hbare hrepeatable
    hanswer rfl rfl rfl
  simp only [hnobody] at hagain
  exact ⟨.stage s, response, e', f', hs, hanswer, hnobody, hkeys, hagain, hkept⟩

end StageFilter

end SignOut
