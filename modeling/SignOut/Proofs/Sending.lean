import SignOut.Proofs.Origin
import SignOut.Proofs.Script
import SignOut.Proofs.Serving

/-!
# Values that cannot be sent

The values of a configuration are checked for presence when they are given, but it is the response
that decides whether they can be sent: the name of a cookie must be a legal one that is not
reserved, and a header carries the characters of one byte only.  So a stage whose parts raise
nothing of their own answers a request that it selects in an exchange without a reason to stop iff
it meets no part with a value that it cannot send for that request.  A stage with a cookie that
cannot be expired answers none at all, for every sign-out expires all cookies of the chain.
-/

namespace SignOut

/-! ## Values that cannot be sent -/

/-- A single success handler redirects a request to a target: it always does, or the request
negotiates a redirect. -/
inductive Success.Answer.Redirects : Success.Answer → Request → String → Prop
  | redirect (url : String) (r : Request) : Redirects (.redirect url) r url
  | negotiating (loginPath : String) {r : Request} {accept requestedWith : Option String}
      (haccept : r.header? "accept" = .ok accept)
      (hrequestedWith : r.header? Success.scriptHeader = .ok requestedWith)
      (houtcome : Negotiation.outcome accept requestedWith = .redirect) :
      Redirects (.negotiating loginPath) r (Success.loginTarget loginPath)

/-- A part was given a value that it cannot send for a request: the name of a header that no header
line can carry, a cookie that cannot be expired, or the target of a redirect. -/
inductive Part.CannotSend : Part → Request → Prop
  | header {name : String} (value : Option String) (r : Request)
      (h : ¬ Text.IsLatin1 (Text.lowerText name).toList) :
      CannotSend (.matcher (.header name value)) r
  | cookie {names : List String} {path domain : Option String} {name : String} (r : Request)
      (hname : name ∈ names) (h : ¬ Cookie.Sendable name path domain) :
      CannotSend (.handler (.expireCookies names path domain)) r
  | target {answer : Success.Answer} {r : Request} {url : String} (hurl : answer.Redirects r url)
      (h : ¬ Text.IsLatin1 url.toList) : CannotSend (.success answer) r

namespace Success

theorem serves_writeRedirect {url : String} (h : Text.IsLatin1 url.toList) :
    Run.Serves (writeRedirect (some url)) :=
  Run.serves_bind (Run.serves_modifyResponse _) fun _ => Run.serves_setHeader _ h

theorem exec_resolve_of_ok {e : Exchange} {accept requestedWith : Option String}
    (haccept : e.request.header? "accept" = .ok accept)
    (hrequestedWith : e.request.header? scriptHeader = .ok requestedWith) :
    Run.exec resolve e = (.ok (Negotiation.outcome accept requestedWith), e) := by
  unfold resolve
  rw [Run.exec_bind_of_ok (Run.exec_header?_of_ok haccept),
    Run.exec_bind_of_ok (Run.exec_header?_of_ok hrequestedWith)]
  rfl

/-- A single success handler answers a request if the target of its redirect can be sent. -/
theorem Answer.exists_give {a : Answer} (h : a.Obliges) {e : Exchange} (he : e.Serving)
    (hsend : ∀ url, a.Redirects e.request url → Text.IsLatin1 url.toList)
    (principal : Option Principal) : ∃ e', Run.exec (a.give principal) e = (.ok (), e') := by
  have hserves : ∀ {action : Run Unit}, Run.Serves action →
      ∃ e', Run.exec action e = (.ok (), e') := by
    intro action haction
    obtain ⟨u, e', hrun, -⟩ := haction e he
    exact ⟨e', hrun⟩
  cases a with
  | redirect url => exact hserves (serves_writeRedirect (hsend url (.redirect url e.request)))
  | status code => exact ⟨_, rfl⟩
  | negotiating loginPath =>
      obtain ⟨accept, haccept⟩ := Run.exists_header? Request.isLatin1_accept e.request
      obtain ⟨requestedWith, hrequestedWith⟩ :=
        Run.exists_header? Request.isLatin1_scriptHeader e.request
      obtain ⟨path, hpath⟩ := he.readable
      show ∃ e', Run.exec (writeNegotiated loginPath) e = (.ok (), e')
      unfold writeNegotiated
      rw [Run.exec_bind_of_ok (exec_resolve_of_ok haccept hrequestedWith),
        Run.exec_bind_of_ok (Run.exec_urlPath_of_ok hpath)]
      -- only a redirect sends the target
      cases houtcome : Negotiation.outcome accept requestedWith with
      | noContent => exact ⟨_, rfl⟩
      | redirect =>
          exact hserves (serves_writeRedirect
            (hsend _ (.negotiating loginPath haccept hrequestedWith houtcome)))
  | recording name code => exact ⟨_, rfl⟩
  | custom collaborator => exact hserves (Collaborator.serves_engage h principal)
  | failing message => exact h.elim
  | unawaited typeName => exact h.elim
  | foreign value => exact h.elim

/-- A redirect to a target that cannot be sent stops. -/
theorem exists_writeRedirect_error {url : String} (h : ¬ Text.IsLatin1 url.toList)
    (e : Exchange) : ∃ fault e', Run.exec (writeRedirect (some url)) e = (.error fault, e') := by
  unfold writeRedirect
  rw [Run.exec_bind_of_ok (Run.exec_modifyResponse _ e)]
  obtain ⟨run, hrun⟩ := Run.exec_requireLatin1_of_not h
    { e with response := { e.response with status := some 302 } }
  exact ⟨_, _, Run.exec_bind_of_error hrun⟩

theorem Answer.exists_give_error {a : Answer} {e : Exchange} {url : String}
    (h : a.Redirects e.request url) (hurl : ¬ Text.IsLatin1 url.toList)
    (principal : Option Principal) :
    ∃ fault e', Run.exec (a.give principal) e = (.error fault, e') := by
  cases h with
  | redirect => exact exists_writeRedirect_error hurl e
  | @negotiating loginPath _ accept requestedWith haccept hrequestedWith houtcome =>
      show ∃ fault e', Run.exec (writeNegotiated loginPath) e = (.error fault, e')
      unfold writeNegotiated
      rw [Run.exec_bind_of_ok (exec_resolve_of_ok haccept hrequestedWith), houtcome]
      cases hpath : e.request.urlPath with
      | error run => exact ⟨_, _, Run.exec_bind_of_error (Run.exec_urlPath_of_error hpath)⟩
      | ok path =>
          rw [Run.exec_bind_of_ok (Run.exec_urlPath_of_ok hpath)]
          exact exists_writeRedirect_error hurl e

end Success

/-- Expiring cookies completes only if all of them can be expired. -/
theorem Handler.sendable_of_exec_expireCookies {names : List String} {path domain : Option String}
    {e e' : Exchange} (h : Run.exec (expireCookies path domain names) e = (.ok (), e'))
    {name : String} (hname : name ∈ names) : Cookie.Sendable name path domain := by
  rw [expireCookies_eq_forM] at h
  obtain ⟨blocks, hblocks⟩ := (Run.exec_forM_eq_ok_iff fun name =>
    Frame.onward.holds_expireCookie name path domain).mp h
  obtain ⟨e₁, e₂, hexpired⟩ := hblocks.exists_of_mem hname
  exact (Run.exec_expireCookie_eq_ok_iff.mp hexpired).1

/-! ## Parts -/

namespace Part

variable {part : Part} {e : Exchange}

/-- A part that raises nothing of its own completes if it can send what it was given. -/
theorem exists_run (hobliges : part.Obliges) (he : e.Serving) (hsend : ¬ part.CannotSend e.request)
    (principal : Option Principal) : ∃ e', Run.exec (part.run principal) e = (.ok (), e') := by
  cases part with
  | matcher atom =>
      have hlatin : ∀ name value, atom = .header name value →
          Text.IsLatin1 (Text.lowerText name).toList := by
        rintro name value rfl
        exact Classical.byContradiction fun h => hsend (.header value e.request h)
      obtain ⟨answer, e', hask, -⟩ := Matcher.Atom.serves_ask hobliges hlatin e he
      exact ⟨e', Run.exec_bind_of_ok hask⟩
  | handler action =>
      have hcookies : ∀ names path domain, action = .expireCookies names path domain →
          ∀ name ∈ names, Cookie.Sendable name path domain := by
        rintro names path domain rfl name hname
        exact Classical.byContradiction fun h => hsend (.cookie e.request hname h)
      obtain ⟨u, e', hperform, -⟩ := Handler.Action.serves_perform hobliges hcookies principal e he
      exact ⟨e', hperform⟩
  | success answer =>
      refine Success.Answer.exists_give hobliges he (fun url hurl => ?_) principal
      exact Classical.byContradiction fun h => hsend (.target hurl h)

/-- A part that cannot send what it was given stops. -/
theorem exists_run_error (h : part.CannotSend e.request) (principal : Option Principal) :
    ∃ fault e', Run.exec (part.run principal) e = (.error fault, e') := by
  cases h with
  | @header name value _ hname =>
      obtain ⟨run, hrun⟩ := Run.exec_header?_of_not hname e
      exact ⟨_, _, Run.exec_bind_of_error (Run.exec_bind_of_error hrun)⟩
  | @cookie names path domain name _ hname hunsendable =>
      rcases hrun : Run.exec (Handler.expireCookies path domain names) e with ⟨result, e'⟩
      cases result with
      | ok u => exact absurd (Handler.sendable_of_exec_expireCookies hrun hname) hunsendable
      | error fault => exact ⟨fault, e', hrun⟩
  | target hurl hlatin => exact Success.Answer.exists_give_error hurl hlatin principal

end Part

namespace Assembly

variable {a : Assembly} {history : List Call} {filter : StageFilter}

/-- A filter that meets a part with a value that it cannot send stops there. -/
theorem exists_fault_of_cannotSend (hbuilt : (initial.applyAll history).build.result = .ok filter)
    {principal : Option Principal} {e e₁ : Exchange} {part : Part}
    (hmeets : filter.Meets principal e part e₁) (hcannot : part.CannotSend e₁.request) :
    ∃ fault e', Run.exec (filter.process principal) e = (.error fault, e') := by
  obtain ⟨fault, e', hstop⟩ := Part.exists_run_error hcannot principal
  exact ⟨fault, e', exec_process_of_meets hbuilt hmeets hstop⟩

/-- A filter none of whose parts raises anything of its own answers a request that it selects,
unless it meets a part with a value that it cannot send. -/
theorem exists_answer_of_obliges (hbuilt : (initial.applyAll history).build.result = .ok filter)
    (hobliges : ∀ part ∈ filter.parts, part.Obliges) {principal : Option Principal}
    {e e₁ : Exchange} (he : e.Serving)
    (hselected : Run.exec filter.bare.configuration.matcher.ask (filter.entered e) = (.ok true, e₁))
    (hsend : ∀ part e₂, filter.Meets principal e part e₂ → ¬ part.CannotSend e₂.request) :
    ∃ response e', Run.exec (filter.process principal) e = (.ok (some response), e') := by
  obtain ⟨c, -, hs, rfl⟩ := exists_configuration_of_build hbuilt
  have hentered : (filter.entered e).Serving := he.entered filter
  have hadmits : ∀ handler ∈ filter.bare.configuration.handlers, ∀ a ∈ handler.actions,
      Frame.serving.Admits a := fun handler hmem a ha =>
    Frame.serving_admits (hobliges (.handler a) (Configuration.handler_mem_parts hmem ha))
  rw [StageFilter.exec_process]
  rcases hprocess : Run.exec (filter.bare.process principal) (filter.entered e) with ⟨result, e'⟩
  cases result with
  | ok answer =>
      cases answer with
      | some response => exact ⟨response, e', rfl⟩
      | none => cases hselected.symm.trans (Stage.exec_process_eq_none_iff.mp hprocess)
  | error fault =>
      rcases (Stage.exec_process_eq_error_iff_meets hs).mp hprocess with
        ⟨part, e₂, hmeets, hstop⟩ | ⟨run, hunreadable, -, -⟩
      · -- what ran ahead of the part gave it no reason to stop, so it would have to have its own
        have hserving : e₂.Serving := hmeets.rel hadmits hentered
        obtain ⟨e₃, hrun⟩ := Part.exists_run (hobliges part hmeets.mem_parts) hserving
          (hsend part e₂ hmeets) principal
        cases hstop.symm.trans hrun
      · obtain ⟨path, hreadable⟩ := hentered.readable
        cases hunreadable.symm.trans hreadable

/-- A chain with a cookie that cannot be expired never answers. -/
theorem not_answers_of_unsendable_cookie
    (hbuilt : (initial.applyAll history).build.result = .ok filter) {handler : Handler}
    {names : List String} {path domain : Option String} {name : String}
    (hmem : handler ∈ addedHandlers history)
    (haction : .expireCookies names path domain ∈ handler.actions) (hname : name ∈ names)
    (hunsendable : ¬ Cookie.Sendable name path domain) (principal : Option Principal)
    (e e' : Exchange) (response : Response) :
    Run.exec (filter.process principal) e ≠ (.ok (some response), e') := by
  intro hprocess
  obtain ⟨e₁, e₂, hexpired⟩ := completes_of_mem_addedHandlers hbuilt hprocess hmem haction
  exact hunsendable (Handler.sendable_of_exec_expireCookies hexpired hname)

/-- What a filter that was built does with values that nothing has checked for being sendable.
Wherever it meets one that cannot be sent, it stops.  If none of its parts raises anything of its
own and the exchange gives no reason to stop, it answers a request that it selects unless it meets
such a value.  And a chain with a cookie that cannot be expired never answers, whether the cookie
was given by its name or with a handler at any depth. -/
theorem answers_unless_unsendable (hleft : a.LeftBy history)
    (hbuilt : a.build.result = .ok filter) :
    (∀ {principal e part e₁}, filter.Meets principal e part e₁ → part.CannotSend e₁.request →
      ∃ fault e', Run.exec (filter.process principal) e = (.error fault, e')) ∧
    ((∀ part ∈ filter.parts, part.Obliges) → ∀ {principal e e₁}, e.Serving →
      Run.exec filter.bare.configuration.matcher.ask (filter.entered e) = (.ok true, e₁) →
      (∀ part e₂, filter.Meets principal e part e₂ → ¬ part.CannotSend e₂.request) →
      ∃ response e', Run.exec (filter.process principal) e = (.ok (some response), e')) ∧
    ∀ {handler names path domain name}, handler ∈ addedHandlers history →
      .expireCookies names path domain ∈ handler.actions → name ∈ names →
      ¬ Cookie.Sendable name path domain → ∀ principal e e' response,
        Run.exec (filter.process principal) e ≠ (.ok (some response), e') := by
  obtain rfl := hleft.eq
  refine ⟨?_, ?_, ?_⟩
  · intro principal e part e₁ hmeets hcannot
    exact exists_fault_of_cannotSend hbuilt hmeets hcannot
  · intro hobliges principal e e₁ he hselected hsend
    exact exists_answer_of_obliges hbuilt hobliges he hselected hsend
  · intro handler names path domain name hmem haction hname hunsendable
    exact not_answers_of_unsendable_cookie hbuilt hmem haction hname hunsendable

/-- A script that expires a cookie and redirects. -/
def sampleSendable : List Operation :=
  [.make (.logout [.ok (.deleteCookies [some "SESSION"]), .ok (.setSuccessUrl (some "/bye"))])]

/-- A script that expires a cookie with a blank in its name. -/
def sampleUnsendable : List Operation :=
  [.make (.logout [.ok (.deleteCookies [some "a b"])])]

theorem serving_sampleExchange : Stage.sampleExchange.Serving where
  readable := ⟨_, Stage.urlPath_sampleExchange⟩
  dated := ⟨_, rfl⟩
  stamped := ⟨_, rfl⟩
  willing := rfl

theorem not_sendable_blank : ¬ Cookie.Sendable "a b" (some "/") none := by
  rintro ⟨-, hlegal, -, -⟩
  cases hlegal.symm.trans (by decide : Cookie.isLegalName "a b" = false)

/-- No part of the sample raises anything of its own or has a value that cannot be sent. -/
theorem not_cannotSend_sampleSendable {s : Stage}
    (hbuilt : (initial.applyAll (madeCalls sampleSendable)).build.result =
      .ok (StageFilter.stage s)) :
    (∀ part ∈ (StageFilter.stage s).parts, part.Obliges) ∧
      ∀ part ∈ (StageFilter.stage s).parts, ∀ r, ¬ part.CannotSend r := by
  have hparts : (StageFilter.stage s).parts =
      [.matcher (.logout defaultLogoutPath
          (Text.ordered ((allowedMethods true).map Text.upperText))),
        .handler (.expireCookies ["SESSION"] (some "/") none), .handler (.clearContext .on .on),
        .success (.redirect "/bye")] := by
    cases hbuilt
    rfl
  have hcookie : Cookie.Sendable "SESSION" (some "/") none :=
    ⟨by decide, by decide, by simp [Text.isLatin1], nofun⟩
  rw [hparts]
  refine ⟨?_, ?_⟩
  · simp [Part.Obliges, Matcher.Atom.Obliges, Handler.Action.Obliges, Success.Answer.Obliges]
  intro part hmem r hcannot
  cases hcannot with
  | header value _ h => simp at hmem
  | @cookie names path domain _ _ hname h =>
      have hgiven : names = ["SESSION"] ∧ path = some "/" ∧ domain = none := by simpa using hmem
      obtain ⟨rfl, rfl, rfl⟩ := hgiven
      rw [List.mem_singleton.mp hname] at h
      exact h hcookie
  | @target answer _ _ hurl h =>
      have hgiven : answer = .redirect "/bye" := by simpa using hmem
      subst hgiven
      cases hurl
      exact h (by simp [Text.isLatin1])

theorem answers_unless_unsendable_sample :
    (∃ filter : StageFilter, (initial.perform sampleSendable).build.result = .ok filter ∧
      ∀ principal, ∃ response e', Run.exec (filter.process principal) Stage.sampleExchange =
        (.ok (some response), e')) ∧
    ∃ filter : StageFilter, (initial.perform sampleUnsendable).build.result = .ok filter ∧
      (∃ fault e', Run.exec (filter.process none) Stage.sampleExchange = (.error fault, e')) ∧
      ∀ principal e e' response,
        Run.exec (filter.process principal) e ≠ (.ok (some response), e') := by
  refine ⟨?_, ?_⟩
  · have hbuilt : ∃ s, (initial.applyAll (madeCalls sampleSendable)).build.result =
        .ok (StageFilter.stage s) := ⟨_, rfl⟩
    obtain ⟨s, hs⟩ := hbuilt
    obtain ⟨hobliges, hsend⟩ := not_cannotSend_sampleSendable hs
    refine ⟨.stage s, hs, fun principal => ?_⟩
    have hasked := exec_ask_of_selects hs rfl (selects_sampleExchange rfl)
    exact (answers_unless_unsendable (.script .fresh sampleSendable) hs).2.1 hobliges
      serving_sampleExchange hasked fun part e₂ hmeets => hsend part hmeets.mem_parts e₂.request
  · have hbuilt : ∃ s, (initial.applyAll (madeCalls sampleUnsendable)).build.result =
        .ok (StageFilter.stage s) := ⟨_, rfl⟩
    obtain ⟨s, hs⟩ := hbuilt
    have hmeets := meets_of_selects hs rfl (selects_sampleExchange rfl) rfl none
    obtain ⟨hstops, -, hnever⟩ := answers_unless_unsendable (.script .fresh sampleUnsendable) hs
    exact ⟨.stage s, hs,
      hstops hmeets (.cookie _ List.mem_cons_self not_sendable_blank),
      hnever List.mem_cons_self (List.mem_singleton_self _) List.mem_cons_self not_sendable_blank⟩

/-- A name that no cookie can have passes all checks at startup, and then every sign-out stops. -/
theorem stops_at_blank_cookie :
    ∃ filter : StageFilter, (initial.perform sampleUnsendable).build.result = .ok filter ∧
      (∀ part ∈ filter.parts, part.Obliges) ∧ Stage.sampleExchange.Serving ∧
      Run.exec filter.bare.configuration.matcher.ask (filter.entered Stage.sampleExchange) =
        (.ok true, Stage.sampleExchange) ∧
      ∀ principal, Run.exec (filter.process principal) Stage.sampleExchange =
        (.error (.illegalCookie "a b"), Stage.sampleExchange.opened) := by
  have hbuilt : ∃ s, (initial.applyAll (madeCalls sampleUnsendable)).build.result =
      .ok (StageFilter.stage s) := ⟨_, rfl⟩
  obtain ⟨s, hs⟩ := hbuilt
  have hparts : (StageFilter.stage s).parts =
      [.matcher (.logout defaultLogoutPath
          (Text.ordered ((allowedMethods true).map Text.upperText))),
        .handler (.expireCookies ["a b"] (some "/") none), .handler (.clearContext .on .on),
        .success (.negotiating defaultLoginPath)] := by
    cases hs
    rfl
  refine ⟨.stage s, hs, ?_, serving_sampleExchange,
    exec_ask_of_selects hs rfl (selects_sampleExchange rfl), fun principal => ?_⟩
  · rw [hparts]
    simp [Part.Obliges, Matcher.Atom.Obliges, Handler.Action.Obliges, Success.Answer.Obliges]
  · exact exec_process_of_meets hs
      (meets_of_selects hs rfl (selects_sampleExchange rfl) rfl principal) rfl

end Assembly

end SignOut
