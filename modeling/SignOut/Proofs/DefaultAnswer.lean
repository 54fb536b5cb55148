import SignOut.Proofs.WrittenAnswer

/-!
# The answer to a request that no route selects

The routes of a stage are those that were added, in their order, and behind them stands one default
answer.  It is settled by precedence and not by the order of the calls: a success handler that was
given, or else a redirect to a URL that was given, or else the negotiated answer for the login path,
which is only looked up when the configuration is taken.  A request on which all handlers completed
and which all routes declined gets this default.  Where it is the negotiated one, the request is
redirected to the login path, or it gets the answer without content.
-/

namespace SignOut

/-! ## Courses to their end -/

/-- A stage whose handlers completed and whose chosen success handler completes returns the response
that this one leaves. -/
theorem Stage.exists_exec_process {c : Configuration} {s : Stage} {principal : Option Principal}
    {e e₁ e₂ e₃ e₄ : Exchange} {path : String} {blocks tried : List (List Call)} {chosen : Success}
    (hs : Stage.ofConfiguration c = .ok s) (hrecognised : c.Recognises e path e₁)
    (hhandled : Handler.Handled principal c.handlers e₁.opened blocks e₂)
    (hchosen : Success.Chosen c.fallback c.routes e₂ chosen tried e₃)
    (hanswered : Run.exec (chosen.give principal) e₃ = (.ok (), e₄)) :
    ∃ e', Run.exec (s.process principal) e = (.ok (some e₄.response), e') := by
  obtain ⟨asked, hasked⟩ := (Frame.asking.holds_ask c.matcher).rel hrecognised.selected
  obtain ⟨given, hgiven⟩ :=
    Frame.exists_calls_eq (Frame.onward_holds_give chosen principal) hanswered
  let course : Configuration.Course := ⟨asked, e₁, blocks, e₂, tried, chosen, e₃, given, e₄⟩
  have hcourse : course.Completes c principal e path :=
    ⟨hrecognised, hasked, hhandled, hchosen, hanswered, hgiven⟩
  exact ⟨_, exec_process_of_completes hs hcourse⟩

namespace StageFilter

/-- A request that a filter recognises comes to the default answer: all handlers completed, and then
all routes declined it and left this exchange. -/
inductive FallsBack (filter : StageFilter) (principal : Option Principal) (e : Exchange) :
    Exchange → Prop
  | declined {path : String} {blocks tried : List (List Call)} {e₁ e₂ e₃ : Exchange}
      (hrecognised : filter.bare.configuration.Recognises (filter.entered e) path e₁)
      (hhandled : Handler.Handled principal filter.bare.configuration.handlers e₁.opened blocks e₂)
      (hdeclined : Success.Declined filter.bare.configuration.routes e₂ tried e₃) :
      FallsBack filter principal e e₃

/-- A request that a filter recognises comes to a route: all handlers completed, the routes before
this one declined the request, and this one selects it. -/
inductive Routed (filter : StageFilter) (principal : Option Principal) (e : Exchange) : Prop
  | selected {path : String} {blocks tried : List (List Call)} {e₁ e₂ e₃ e₄ : Exchange}
      {before after : List (Matcher × Success)} {matcher : Matcher} {target : Success}
      (hrecognised : filter.bare.configuration.Recognises (filter.entered e) path e₁)
      (hhandled : Handler.Handled principal filter.bare.configuration.handlers e₁.opened blocks e₂)
      (hroutes : filter.bare.configuration.routes = before ++ (matcher, target) :: after)
      (hdeclined : Success.Declined before e₂ tried e₃)
      (hselects : Run.exec matcher.ask e₃ = (.ok true, e₄)) : Routed filter principal e

variable {filter : StageFilter} {principal : Option Principal} {e e' e₃ : Exchange}

/-- An answered request was selected by a route, or it fell back on the default. -/
theorem routed_or_fallsBack (hs : Stage.ofConfiguration filter.bare.configuration = .ok filter.bare)
    {response : Response}
    (hanswered : Run.exec (filter.process principal) e = (.ok (some response), e')) :
    filter.Routed principal e ∨ ∃ e₃, filter.FallsBack principal e e₃ := by
  rw [StageFilter.exec_process] at hanswered
  obtain ⟨⟨asked, matched, handled, cleared, tried, chosen, routed, given, answered⟩, path,
    hcourse, -⟩ := Stage.completes_of_exec_process hs hanswered
  have hchosen : Success.Chosen filter.bare.configuration.fallback
      filter.bare.configuration.routes cleared chosen tried routed := hcourse.chosen
  generalize hroutes : filter.bare.configuration.routes = routes at hchosen
  generalize filter.bare.configuration.fallback = fallback at hchosen
  cases hchosen with
  | route hbefore hmatcher hcalls =>
      exact .inl (.selected hcourse.recognised hcourse.handled hroutes hbefore hmatcher)
  | fallback hdeclined =>
      exact .inr ⟨_, .declined hcourse.recognised hcourse.handled (hroutes ▸ hdeclined)⟩

/-- The default answer sees the request as it came in, apart from its session and its user. -/
theorem FallsBack.outline_eq (h : filter.FallsBack principal e e₃) :
    e₃.request.outline = e.request.outline := by
  cases h with
  | declined hrecognised hhandled hdeclined =>
      have houtline := Configuration.outline_eq_of_chosen hrecognised hhandled (.fallback hdeclined)
      rw [houtline, request_entered]

theorem FallsBack.exists_urlPath (h : filter.FallsBack principal e e₃) :
    ∃ path, e₃.request.urlPath = .ok path := by
  have houtline := h.outline_eq
  cases h with
  | declined hrecognised hhandled hdeclined =>
      have hreadable := hrecognised.readable
      rw [request_entered] at hreadable
      exact ⟨_, (Request.urlPath_eq_of_outline houtline).trans hreadable⟩

/-- The default answer decides what the filter returns. -/
theorem FallsBack.exec_process (h : filter.FallsBack principal e e₃)
    (hs : Stage.ofConfiguration filter.bare.configuration = .ok filter.bare) :
    (∀ {e₄}, Run.exec (filter.bare.configuration.fallback.give principal) e₃ = (.ok (), e₄) →
      ∃ e', Run.exec (filter.process principal) e = (.ok (some e₄.response), e')) ∧
    ∀ {fault e₄}, Run.exec (filter.bare.configuration.fallback.give principal) e₃ =
        (.error fault, e₄) → Run.exec (filter.process principal) e = (.error fault, e₄) := by
  cases h with
  | declined hrecognised hhandled hdeclined =>
      rw [StageFilter.exec_process]
      constructor
      · intro e₄ hanswered
        exact Stage.exists_exec_process hs hrecognised hhandled (.fallback hdeclined) hanswered
      · intro fault e₄ hstopped
        exact Stage.exec_process_of_raises hs
          (.success hrecognised hhandled (.fallback hdeclined) hstopped)

end StageFilter

namespace Request

theorem negotiated_eq_of_outline {r r' : Request} (h : r'.outline = r.outline) :
    r'.negotiated = r.negotiated :=
  (congrArg negotiated h : negotiated r'.outline = negotiated r.outline)

end Request

/-! ## The negotiated answer -/

namespace StageFilter.FallsBack

variable {filter : StageFilter} {principal : Option Principal} {e e₃ : Exchange}
  {loginPath : String}

/-- Where the default is the negotiated answer, it is what the filter returns, and there is an answer
unless it is a redirect whose target cannot be sent. -/
theorem negotiates (h : filter.FallsBack principal e e₃)
    (hs : Stage.ofConfiguration filter.bare.configuration = .ok filter.bare)
    (hfallback : filter.bare.configuration.fallback = .answer (.negotiating loginPath)) :
    (∀ response e', Run.exec (filter.process principal) e = (.ok (some response), e') →
      (e.request.negotiated = .redirect →
        Response.RedirectsTo (Success.loginTarget loginPath) e₃.response response) ∧
      (e.request.negotiated = .noContent →
        Response.EmptiedTo (some Success.noContentStatus) e₃.response response)) ∧
    ((∃ response e', Run.exec (filter.process principal) e = (.ok (some response), e')) ↔
      (e.request.negotiated = .redirect →
        Text.IsLatin1 (Success.loginTarget loginPath).toList)) := by
  obtain ⟨hanswers, hstops⟩ := h.exec_process hs
  rw [hfallback] at hanswers hstops
  obtain ⟨path, hpath⟩ := h.exists_urlPath
  rw [← Request.negotiated_eq_of_outline h.outline_eq]
  by_cases hlatin : e₃.request.negotiated = .redirect →
      Text.IsLatin1 (Success.loginTarget loginPath).toList
  · obtain ⟨r, hwritten, hredirects, hempties⟩ := Success.exists_writeNegotiated hpath hlatin
    obtain ⟨e', hprocess⟩ := hanswers hwritten
    refine ⟨?_, fun _ => hlatin, fun _ => ⟨_, _, hprocess⟩⟩
    intro response e'' hreturned
    cases hprocess.symm.trans hreturned
    exact ⟨hredirects.mp, hempties.mp⟩
  · -- the redirect cannot be sent, so there is no answer at all
    obtain ⟨hredirect, hunsendable⟩ := Classical.not_imp.mp hlatin
    obtain ⟨fault, e₄, hstopped⟩ := Success.exists_writeRedirect_error hunsendable e₃
    have hgiven : Run.exec (Success.give principal (.answer (.negotiating loginPath))) e₃ =
        (.error fault, e₄) := by
      show Run.exec (Success.writeNegotiated loginPath) e₃ = _
      rw [Success.exec_writeNegotiated hpath, hredirect]
      exact hstopped
    have hnone : ∀ response e',
        Run.exec (filter.process principal) e ≠ (.ok (some response), e') := by
      intro response e' hreturned
      cases (hstops hgiven).symm.trans hreturned
    refine ⟨fun response e' hreturned => absurd hreturned (hnone response e'), ?_, ?_⟩
    · rintro ⟨response, e', hreturned⟩
      exact absurd hreturned (hnone response e')
    · exact fun hsend => absurd hsend hlatin

end StageFilter.FallsBack

namespace Assembly

variable {a : Assembly} {history : List Call}

/-- How a script settles what follows a sign-out, in whatever order its calls were made and however
many of them were refused.  The routes are all that were added, in order.  The default is the
success handler that was given last, or else a redirect to the URL that was given last, or else the
negotiated answer for the login path that was given last.  An answered request was selected by a
route, or it fell back on the default.  If neither a success handler nor a URL was given, a request
that falls back is answered by a redirect to that login path, or without content, as it asks for;
there is an answer unless the target of the redirect cannot be sent. -/
theorem answers_of_script (hleft : a.LeftBy history) :
    (∀ c, a.buildConfiguration = .ok c →
      c.routes = (optionCalls history).filterMap Options.Call.route? ∧
      c.fallback =
        ((lastGiven Options.Call.fallback? (optionCalls history)).or
          ((lastGiven Options.Call.successUrl? (optionCalls history)).map fun url =>
            .answer (.redirect url))).getD
        (.answer (.negotiating ((lastGiven Call.loginPath? history).getD defaultLoginPath)))) ∧
    ∀ {filter : StageFilter}, a.build.result = .ok filter →
      (∀ {principal e response e'},
        Run.exec (filter.process principal) e = (.ok (some response), e') →
        filter.Routed principal e ∨ ∃ e₃, filter.FallsBack principal e e₃) ∧
      (lastGiven Options.Call.fallback? (optionCalls history) = none →
        lastGiven Options.Call.successUrl? (optionCalls history) = none →
        ∀ {principal e e₃}, filter.FallsBack principal e e₃ →
          let target := (lastGiven Call.loginPath? history).getD defaultLoginPath ++ "?logout"
          (∀ response e', Run.exec (filter.process principal) e = (.ok (some response), e') →
            (e.request.negotiated = .redirect → response.status = some 302 ∧
              response.headers.filter (·.1 = "location") = [("location", target)]) ∧
            (e.request.negotiated = .noContent → response.status = some 204)) ∧
          ((∃ response e', Run.exec (filter.process principal) e = (.ok (some response), e')) ↔
            (e.request.negotiated = .redirect → Text.IsLatin1 target.toList))) := by
  obtain rfl := hleft.eq
  refine ⟨fun c hc => ⟨routes_of_buildConfiguration hc, fallback_of_buildConfiguration hc⟩, ?_⟩
  intro filter hbuilt
  obtain ⟨c, hc, hs, hbare⟩ := exists_configuration_of_build hbuilt
  have hs : Stage.ofConfiguration filter.bare.configuration = .ok filter.bare := hbare ▸ hs
  refine ⟨StageFilter.routed_or_fallsBack hs, ?_⟩
  intro hnone hurl principal e e₃ hfalls target
  have hfallback : filter.bare.configuration.fallback =
      .answer (.negotiating ((lastGiven Call.loginPath? history).getD defaultLoginPath)) := by
    rw [hbare, fallback_of_buildConfiguration hc, hnone, hurl]
    rfl
  obtain ⟨hanswer, hexists⟩ := hfalls.negotiates hs hfallback
  refine ⟨fun response e' hreturned => ?_, hexists⟩
  obtain ⟨hredirects, hempties⟩ := hanswer response e' hreturned
  exact ⟨fun hredirect => ⟨(hredirects hredirect).status, (hredirects hredirect).location⟩,
    fun hempty => (hempties hempty).status⟩

/-- A script that gives a URL and later two success handlers.  The second URL is missing, which is
refused and keeps the handler behind it from being given. -/
def sampleGiven : List Operation :=
  [.make (.logout [.ok (.setSuccessUrl (some "/bye"))]), .build,
   .make (.logout [.ok (.setDefaultSuccessHandler (.answer (.status (some 200)))),
     .ok (.setDefaultSuccessHandler (.answer (.status (some 204)))), .ok (.setSuccessUrl none),
     .ok (.setDefaultSuccessHandler (.answer (.redirect "/lost")))])]

/-- A script with a route that declines.  Its last login path is missing, and the route behind the
missing URL is never added. -/
def sampleDeclining : List Operation :=
  [.make (.loginPath (some "/first")),
   .make (.logout [.ok (.addSuccessRoute (.answer (.redirect "/script"))
     (.atom (.probe "script" (.ok false))))]),
   .build, .make (.loginPath (some "/signin")),
   .make (.logout [.ok (.setSuccessUrl none),
     .ok (.addSuccessRoute (.answer (.redirect "/lost")) (.atom .everything))]),
   .make (.loginPath none)]

/-- A request by the sample's path falls back on the default of that script, whatever its header
lines are. -/
theorem fallsBack_sampleDeclining {s : Stage}
    (hbuilt : (initial.applyAll (madeCalls sampleDeclining)).build.result =
      .ok (StageFilter.stage s)) (headers : List HeaderLine) :
    ∃ e₃, (StageFilter.stage s).FallsBack none (Success.crowdedExchange headers) e₃ := by
  have hselects : Selects (madeCalls sampleDeclining) Stage.sampleExchange.request :=
    selects_sampleExchange rfl
  have hrecognised := recognises_of_selects (e := Success.crowdedExchange headers) hbuilt rfl
    ⟨hselects.path, hselects.method⟩
  obtain rfl := Filter.stage.inj (Except.ok.inj hbuilt)
  exact ⟨_, .declined hrecognised (.cons rfl rfl (.nil _)) (.cons rfl rfl (.nil _))⟩

theorem answers_of_script_sample :
    (∃ c, (initial.perform sampleGiven).buildConfiguration = .ok c ∧
      c.fallback = .answer (.status (some 204))) ∧
    ∃ filter : StageFilter, (initial.perform sampleDeclining).build.result = .ok filter ∧
      (∃ response e', Run.exec (filter.process none) (Success.crowdedExchange []) =
          (.ok (some response), e') ∧ response.status = some 302 ∧
        response.headers.filter (·.1 = "location") = [("location", "/signin?logout")]) ∧
      ∃ response e', Run.exec (filter.process none)
          (Success.crowdedExchange [("x-requested-with", "XMLHttpRequest")]) =
            (.ok (some response), e') ∧ response.status = some 204 := by
  refine ⟨?_, ?_⟩
  · have hbuilt : ∃ c, (initial.applyAll (madeCalls sampleGiven)).buildConfiguration = .ok c :=
      ⟨_, rfl⟩
    obtain ⟨c, hc⟩ := hbuilt
    refine ⟨c, hc, ?_⟩
    rw [((answers_of_script (.script .fresh sampleGiven)).1 c hc).2]
    rfl
  · have hbuilt : ∃ s, (initial.applyAll (madeCalls sampleDeclining)).build.result =
        .ok (StageFilter.stage s) := ⟨_, rfl⟩
    obtain ⟨s, hs⟩ := hbuilt
    have hbrowsing : (Success.crowdedExchange []).request.negotiated = .redirect := by
      decide +kernel
    have hscripted : (Success.crowdedExchange
        [("x-requested-with", "XMLHttpRequest")]).request.negotiated = .noContent := by
      decide
    obtain ⟨e₃, hbrowsed⟩ := fallsBack_sampleDeclining hs []
    obtain ⟨e₃', hasked⟩ :=
      fallsBack_sampleDeclining hs [("x-requested-with", "XMLHttpRequest")]
    have hscript := answers_of_script (.script .fresh sampleDeclining)
    obtain ⟨hredirects, hredirected⟩ := (hscript.2 hs).2 rfl rfl hbrowsed
    obtain ⟨hempties, hemptied⟩ := (hscript.2 hs).2 rfl rfl hasked
    have htarget : Text.IsLatin1 "/signin?logout".toList := by simp [Text.isLatin1]
    obtain ⟨response, e', hresponse⟩ := hredirected.mpr fun _ => htarget
    obtain ⟨emptied, e'', hempty⟩ := hemptied.mpr fun hredirect => by
      rw [hscripted] at hredirect
      simp at hredirect
    exact ⟨.stage s, hs, ⟨response, e', hresponse, (hredirects _ _ hresponse).1 hbrowsing⟩,
      ⟨emptied, e'', hempty, (hempties _ _ hempty).2 hscripted⟩⟩

end Assembly

end SignOut
