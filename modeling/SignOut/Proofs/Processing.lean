import SignOut.Proofs.Checks
import SignOut.Proofs.Course

/-!
# What a stage does with a request

The stage of a configuration asks the request matcher, runs the handlers in order on a fresh
response, and runs the one success handler that the routes select.  Every run of the stage that
signs out is such a course to its end, with the log record of the sign-out behind everything else.
Every run that stops was stopped by the collaborator that the course had reached, in the exchange
that this collaborator left, or by a target of the request that cannot be read.
-/

namespace SignOut

/-- The exchange in which the first handler starts: a fresh response is under construction. -/
def Exchange.opened (e : Exchange) : Exchange :=
  { e with response := Response.initial }

namespace Configuration

/-- The request matcher selects the request, whose target can be read. -/
structure Recognises (c : Configuration) (e : Exchange) (path : String) (e₁ : Exchange) :
    Prop where
  selected : Run.exec c.matcher.ask e = (.ok true, e₁)
  readable : e.request.urlPath = .ok path

/-- What a sign-out leaves at its milestones: the calls of the request matcher and the exchange
behind them, the calls of every handler and the exchange behind the last one, the success handler
that the routes select with the calls of the matchers asked for it, and the calls of that success
handler with the exchange behind everything. -/
structure Course where
  asked : List Call
  matched : Exchange
  handled : List (List Call)
  cleared : Exchange
  tried : List (List Call)
  chosen : Success
  routed : Exchange
  given : List Call
  answered : Exchange

/-- All calls that are recorded along a course, in their order. -/
def Course.calls (course : Course) : List Call :=
  course.asked ++ course.handled.flatten ++ course.tried.flatten ++ course.given

/-- The collaborators of a configuration take a course to its end, each from where the one before
it left the exchange: the request matcher selects the request and records calls at most, every
handler runs once and for the same principal, the routes select one success handler, and that one
completes. -/
structure Course.Completes (course : Course) (c : Configuration) (principal : Option Principal)
    (e : Exchange) (path : String) : Prop where
  recognised : c.Recognises e path course.matched
  matched_eq : course.matched = { e with calls := e.calls ++ course.asked }
  handled : Handler.Handled principal c.handlers course.matched.opened course.handled
    course.cleared
  chosen : Success.Chosen c.fallback c.routes course.cleared course.chosen course.tried
    course.routed
  answered : Run.exec (course.chosen.give principal) course.routed = (.ok (), course.answered)
  answered_calls : course.answered.calls = course.routed.calls ++ course.given

/-- A collaborator that the stage of a configuration calls raises, and leaves an exchange: the
request matcher; a handler, after all handlers ahead of it; the matcher of a route, after all
handlers and the matchers ahead of it; or the success handler that the routes selected. -/
inductive Raises (c : Configuration) (principal : Option Principal) (e : Exchange) :
    Fault → Exchange → Prop
  | matcher {fault : Fault} {e' : Exchange}
      (hmatcher : Run.exec c.matcher.ask e = (.error fault, e')) : Raises c principal e fault e'
  | handler {before after : List Handler} {handler : Handler} {path : String}
      {blocks : List (List Call)} {e₁ e₂ e' : Exchange} {fault : Fault}
      (hrecognised : c.Recognises e path e₁)
      (hhandlers : c.handlers = before ++ handler :: after)
      (hbefore : Handler.Handled principal before e₁.opened blocks e₂)
      (hhandler : Run.exec (handler.perform principal) e₂ = (.error fault, e')) :
      Raises c principal e fault e'
  | route {before after : List (Matcher × Success)} {matcher : Matcher} {target : Success}
      {path : String} {blocks tried : List (List Call)} {e₁ e₂ e₃ e' : Exchange} {fault : Fault}
      (hrecognised : c.Recognises e path e₁)
      (hhandlers : Handler.Handled principal c.handlers e₁.opened blocks e₂)
      (hroutes : c.routes = before ++ (matcher, target) :: after)
      (hbefore : Success.Declined before e₂ tried e₃)
      (hmatcher : Run.exec matcher.ask e₃ = (.error fault, e')) :
      Raises c principal e fault e'
  | success {chosen : Success} {path : String} {blocks tried : List (List Call)}
      {e₁ e₂ e₃ e' : Exchange} {fault : Fault}
      (hrecognised : c.Recognises e path e₁)
      (hhandlers : Handler.Handled principal c.handlers e₁.opened blocks e₂)
      (hchosen : Success.Chosen c.fallback c.routes e₂ chosen tried e₃)
      (hsuccess : Run.exec (chosen.give principal) e₃ = (.error fault, e')) :
      Raises c principal e fault e'

end Configuration

namespace Stage

open SignOut.Configuration (Course)

variable {c : Configuration} {s : Stage} {principal : Option Principal} {e e₁ e' : Exchange}
  {path : String} {fault : Fault}

/-! ## The steps of a sign-out -/

theorem exec_signOut_of_unreadable {run : Text.UndecodableRun}
    (h : e.request.urlPath = .error run) :
    Run.exec (s.signOut principal) e = (.error (.undecodable run), e) :=
  Run.exec_bind_of_error (Run.exec_urlPath_of_error h)

theorem exec_signOut_eq_ok_iff {response : Response} (hpath : e.request.urlPath = .ok path) :
    Run.exec (s.signOut principal) e = (.ok response, e') ↔
      ∃ e₂ e₄, Run.exec (s.handler.perform principal) e.opened = (.ok (), e₂) ∧
        Run.exec (s.success.give principal) e₂ = (.ok (), e₄) ∧ response = e₄.response ∧
        e' = { e₄ with records := e₄.records ++ [completion path e₄] } := by
  unfold Stage.signOut
  rw [Run.exec_bind_of_ok (Run.exec_urlPath_of_ok hpath),
    Run.exec_bind_of_ok (Run.exec_modifyResponse _ _)]
  constructor
  · intro h
    obtain ⟨u, e₂, hhandlers, h⟩ := Run.exec_bind_eq_ok_iff.mp h
    obtain ⟨u, e₄, hsuccess, h⟩ := Run.exec_bind_eq_ok_iff.mp h
    cases h
    exact ⟨e₂, e₄, hhandlers, hsuccess, rfl, rfl⟩
  · rintro ⟨e₂, e₄, hhandlers, hsuccess, rfl, rfl⟩
    show Run.exec _ e.opened = _
    rw [Run.exec_bind_of_ok hhandlers, Run.exec_bind_of_ok hsuccess]
    rfl

theorem exec_signOut_eq_error_iff (hpath : e.request.urlPath = .ok path) :
    Run.exec (s.signOut principal) e = (.error fault, e') ↔
      Run.exec (s.handler.perform principal) e.opened = (.error fault, e') ∨
        ∃ e₂, Run.exec (s.handler.perform principal) e.opened = (.ok (), e₂) ∧
          Run.exec (s.success.give principal) e₂ = (.error fault, e') := by
  unfold Stage.signOut
  rw [Run.exec_bind_of_ok (Run.exec_urlPath_of_ok hpath),
    Run.exec_bind_of_ok (Run.exec_modifyResponse _ _)]
  refine Run.exec_bind_eq_error_iff.trans (or_congr Iff.rfl ?_)
  constructor
  · rintro ⟨u, e₂, hhandlers, h⟩
    rcases Run.exec_bind_eq_error_iff.mp h with hsuccess | ⟨u, e₄, -, h⟩
    · exact ⟨e₂, hhandlers, hsuccess⟩
    · cases h
  · rintro ⟨e₂, hhandlers, hsuccess⟩
    exact ⟨(), e₂, hhandlers, Run.exec_bind_of_error hsuccess⟩

/-- There is an answer iff the request is selected and signed out, from where the matcher left the
exchange. -/
theorem exec_process_eq_some_iff {response : Response} :
    Run.exec (s.process principal) e = (.ok (some response), e') ↔
      ∃ e₁, Run.exec s.configuration.matcher.ask e = (.ok true, e₁) ∧
        Run.exec (s.signOut principal) e₁ = (.ok response, e') := by
  refine Run.exec_bind_eq_ok_iff.trans ?_
  constructor
  · rintro ⟨selected, e₁, hmatcher, hnext⟩
    cases selected with
    | false => cases hnext
    | true =>
        obtain ⟨written, e₅, hsignOut, hreturn⟩ := Run.exec_bind_eq_ok_iff.mp hnext
        cases hreturn
        exact ⟨e₁, hmatcher, hsignOut⟩
  · rintro ⟨e₁, hmatcher, hsignOut⟩
    exact ⟨true, e₁, hmatcher, Run.exec_bind_of_ok hsignOut⟩

/-- There is no answer iff the request is not selected, and then the matcher was all that ran. -/
theorem exec_process_eq_none_iff :
    Run.exec (s.process principal) e = (.ok none, e') ↔
      Run.exec s.configuration.matcher.ask e = (.ok false, e') := by
  refine Run.exec_bind_eq_ok_iff.trans ?_
  constructor
  · rintro ⟨selected, e₁, hmatcher, hnext⟩
    cases selected with
    | false =>
        cases hnext
        exact hmatcher
    | true =>
        obtain ⟨written, e₅, -, hreturn⟩ := Run.exec_bind_eq_ok_iff.mp hnext
        cases hreturn
  · intro hmatcher
    exact ⟨false, e', hmatcher, rfl⟩

/-- The stage stops iff the matcher does, or the sign-out of a selected request does. -/
theorem exec_process_eq_error_iff :
    Run.exec (s.process principal) e = (.error fault, e') ↔
      Run.exec s.configuration.matcher.ask e = (.error fault, e') ∨
        ∃ e₁, Run.exec s.configuration.matcher.ask e = (.ok true, e₁) ∧
          Run.exec (s.signOut principal) e₁ = (.error fault, e') := by
  refine Run.exec_bind_eq_error_iff.trans (or_congr Iff.rfl ?_)
  constructor
  · rintro ⟨selected, e₁, hmatcher, hnext⟩
    cases selected with
    | false => cases hnext
    | true =>
        rcases Run.exec_bind_eq_error_iff.mp hnext with hsignOut | ⟨written, e₅, -, hreturn⟩
        · exact ⟨e₁, hmatcher, hsignOut⟩
        · cases hreturn
  · rintro ⟨e₁, hmatcher, hsignOut⟩
    exact ⟨true, e₁, hmatcher, Run.exec_bind_of_error hsignOut⟩

/-- Asking the request matcher leaves the target as it was. -/
theorem urlPath_eq_of_exec_ask {matcher : Matcher} {result : Except Fault Bool}
    (h : Run.exec matcher.ask e = (result, e₁)) : e₁.request.urlPath = e.request.urlPath := by
  obtain ⟨calls, rfl⟩ := (Frame.asking.holds_ask matcher).rel h
  rfl

/-! ## Courses -/

/-- A course that the collaborators take to its end ends in the answer, and the sign-out is logged
behind everything else. -/
theorem exec_process_of_completes (hs : Stage.ofConfiguration c = .ok s) {course : Course}
    (h : course.Completes c principal e path) :
    Run.exec (s.process principal) e =
      (.ok (some course.answered.response),
        { course.answered with
          records := course.answered.records ++ [completion path course.answered] }) := by
  obtain rfl := Stage.eq_of_ofConfiguration hs
  have hread : course.matched.request.urlPath = .ok path := by
    rw [urlPath_eq_of_exec_ask h.recognised.selected, h.recognised.readable]
  have hhandlers := Handler.exec_many_eq_ok_iff.mpr ⟨course.handled, h.handled⟩
  have hsuccess := Success.exec_routed_eq_ok_iff.mpr
    ⟨course.chosen, course.tried, course.routed, h.chosen, h.answered⟩
  exact exec_process_eq_some_iff.mpr ⟨course.matched, h.recognised.selected,
    (exec_signOut_eq_ok_iff hread).mpr
      ⟨course.cleared, course.answered, hhandlers, hsuccess, rfl, rfl⟩⟩

/-- Whenever there is an answer, the collaborators took a course to its end. -/
theorem completes_of_exec_process (hs : Stage.ofConfiguration c = .ok s) {response : Response}
    (h : Run.exec (s.process principal) e = (.ok (some response), e')) :
    ∃ course path, Course.Completes course c principal e path ∧
      response = course.answered.response ∧
      e' = { course.answered with
        records := course.answered.records ++ [completion path course.answered] } := by
  obtain rfl := Stage.eq_of_ofConfiguration hs
  obtain ⟨e₁, hselected, hsignOut⟩ := exec_process_eq_some_iff.mp h
  have hread := urlPath_eq_of_exec_ask hselected
  cases hpath : e.request.urlPath with
  | error run =>
      rw [exec_signOut_of_unreadable (hread.trans hpath)] at hsignOut
      cases hsignOut
  | ok path =>
      obtain ⟨e₂, e₄, hhandlers, hsuccess, hresponse, hended⟩ :=
        (exec_signOut_eq_ok_iff (hread.trans hpath)).mp hsignOut
      obtain ⟨asked, hasked⟩ := (Frame.asking.holds_ask c.matcher).rel hselected
      obtain ⟨blocks, hblocks⟩ := Handler.exec_many_eq_ok_iff.mp hhandlers
      obtain ⟨chosen, tried, e₃, hchosen, hdone⟩ := Success.exec_routed_eq_ok_iff.mp hsuccess
      obtain ⟨given, hgiven⟩ :=
        Frame.exists_calls_eq (Frame.onward_holds_give chosen principal) hdone
      exact ⟨⟨asked, e₁, blocks, e₂, tried, chosen, e₃, given, e₄⟩, path,
        ⟨⟨hselected, hpath⟩, hasked, hblocks, hchosen, hdone, hgiven⟩, hresponse, hended⟩

/-- The calls recorded along a course are all that is recorded. -/
theorem calls_eq_of_completes {course : Course} (h : course.Completes c principal e path) :
    course.answered.calls = e.calls ++ course.calls := by
  have hmatched : course.matched.opened.calls = e.calls ++ course.asked := by
    rw [h.matched_eq]
    rfl
  rw [h.answered_calls, h.chosen.calls_eq, h.handled.calls_eq.2, hmatched, Course.calls]
  simp only [List.append_assoc]

/-- Behind the handlers of a course, a frame holds that admits the success handler. -/
theorem rel_answered_of_completes {F : Frame} [F.AllowsWrites] {course : Course}
    (h : course.Completes c principal e path)
    (hanswers : ∀ a ∈ course.chosen.answers, F.AdmitsAnswer a) :
    F.Rel course.cleared course.answered :=
  F.trans h.chosen.rel ((Frame.holds_give hanswers principal).rel h.answered)

/-- A frame that admits all that a course consists of holds along the course. -/
theorem rel_of_completes {F : Frame} [F.AllowsWork] {course : Course}
    (h : course.Completes c principal e path)
    (hhandlers : ∀ handler ∈ c.handlers, ∀ a ∈ handler.actions, F.Admits a)
    (hanswers : ∀ a ∈ course.chosen.answers, F.AdmitsAnswer a) : F.Rel e course.answered := by
  have hasked : F.Rel e course.matched := (F.holds_ask c.matcher).rel h.recognised.selected
  have hopened : F.Rel course.matched course.matched.opened :=
    Frame.AllowsWork.answered course.matched Response.initial
  have hhandled : F.Rel course.matched.opened course.cleared :=
    h.handled.rel fun handler hmem => Frame.holds_perform (hhandlers handler hmem) principal
  exact F.trans hasked
    (F.trans hopened (F.trans hhandled (rel_answered_of_completes h hanswers)))

/-- Along a course calls and log records are only added, and no completion is logged. -/
theorem onward_of_completes {course : Course} (h : course.Completes c principal e path) :
    Frame.onward.Rel e course.answered :=
  rel_of_completes h (fun _ _ a _ => Frame.onward_admits a) fun a _ => Frame.onward_admitsAnswer a

/-! ## Stops -/

/-- A collaborator that raises stops the stage, in the exchange that it left. -/
theorem exec_process_of_raises (hs : Stage.ofConfiguration c = .ok s)
    (h : c.Raises principal e fault e') :
    Run.exec (s.process principal) e = (.error fault, e') := by
  obtain rfl := Stage.eq_of_ofConfiguration hs
  -- behind the request matcher, it is the sign-out that stops
  have hsignOut : ∀ {path e₁}, c.Recognises e path e₁ →
      (Run.exec (Handler.perform principal (.many c.handlers)) e₁.opened = (.error fault, e') ∨
        ∃ e₂, Run.exec (Handler.perform principal (.many c.handlers)) e₁.opened = (.ok (), e₂) ∧
          Run.exec (Success.give principal (.routed c.routes c.fallback)) e₂ =
            (.error fault, e')) →
      Run.exec (Stage.process ⟨c, .many c.handlers, .routed c.routes c.fallback⟩ principal) e =
        (.error fault, e') := by
    intro path e₁ hrecognised hcourse
    have hread : e₁.request.urlPath = .ok path := by
      rw [urlPath_eq_of_exec_ask hrecognised.selected, hrecognised.readable]
    exact exec_process_eq_error_iff.mpr
      (Or.inr ⟨e₁, hrecognised.selected, (exec_signOut_eq_error_iff hread).mpr hcourse⟩)
  cases h with
  | matcher hmatcher => exact exec_process_eq_error_iff.mpr (Or.inl hmatcher)
  | handler hrecognised hhandlers hbefore hhandler =>
      exact hsignOut hrecognised (Or.inl (Handler.exec_many_eq_error_iff.mpr
        ⟨_, _, _, _, _, hhandlers, hbefore, hhandler⟩))
  | route hrecognised hhandlers hroutes hbefore hmatcher =>
      exact hsignOut hrecognised (Or.inr ⟨_, Handler.exec_many_eq_ok_iff.mpr ⟨_, hhandlers⟩,
        Success.exec_routed_eq_error_iff.mpr
          (Or.inl ⟨_, _, _, _, _, _, hroutes, hbefore, hmatcher⟩)⟩)
  | success hrecognised hhandlers hchosen hsuccess =>
      exact hsignOut hrecognised (Or.inr ⟨_, Handler.exec_many_eq_ok_iff.mpr ⟨_, hhandlers⟩,
        Success.exec_routed_eq_error_iff.mpr (Or.inr ⟨_, _, _, hchosen, hsuccess⟩)⟩)

/-- A stage stops only because a collaborator raises, or because the target of a selected request
cannot be read. -/
theorem raises_of_exec_process (hs : Stage.ofConfiguration c = .ok s)
    (h : Run.exec (s.process principal) e = (.error fault, e')) :
    c.Raises principal e fault e' ∨
      ∃ run, e.request.urlPath = .error run ∧ fault = .undecodable run ∧
        Run.exec c.matcher.ask e = (.ok true, e') := by
  obtain rfl := Stage.eq_of_ofConfiguration hs
  rcases exec_process_eq_error_iff.mp h with hmatcher | ⟨e₁, hselected, hsignOut⟩
  · exact Or.inl (.matcher hmatcher)
  have hread := urlPath_eq_of_exec_ask hselected
  cases hpath : e.request.urlPath with
  | error run =>
      rw [exec_signOut_of_unreadable (hread.trans hpath)] at hsignOut
      cases hsignOut
      exact Or.inr ⟨run, rfl, rfl, hselected⟩
  | ok path =>
      have hrecognised : c.Recognises e path e₁ := ⟨hselected, hpath⟩
      -- the target is readable, so a handler stops, or after all of them the dispatch does
      left
      rcases (exec_signOut_eq_error_iff (hread.trans hpath)).mp hsignOut with
        hhandlers | ⟨e₂, hhandlers, hsuccess⟩
      · obtain ⟨before, handler, after, blocks, e₂, heq, hbefore, hhandler⟩ :=
          Handler.exec_many_eq_error_iff.mp hhandlers
        exact .handler hrecognised heq hbefore hhandler
      · obtain ⟨blocks, hhandled⟩ := Handler.exec_many_eq_ok_iff.mp hhandlers
        rcases Success.exec_routed_eq_error_iff.mp hsuccess with
          ⟨before, matcher, target, after, tried, e₃, heq, hbefore, hroute⟩ |
          ⟨chosen, tried, e₃, hchosen, hgive⟩
        · exact .route hrecognised hhandled heq hbefore hroute
        · exact .success hrecognised hhandled hchosen hgive

/-- If no collaborator raises, the collaborators take the course of a recognised request to its
end. -/
theorem exists_completes (hs : Stage.ofConfiguration c = .ok s)
    (hrecognised : c.Recognises e path e₁)
    (hnone : ∀ fault e', ¬ c.Raises principal e fault e') :
    ∃ course : Course, course.Completes c principal e path := by
  rcases hprocess : Run.exec (s.process principal) e with ⟨result, e'⟩
  cases result with
  | error fault =>
      rcases raises_of_exec_process hs hprocess with hraises | ⟨run, hunread, -, -⟩
      · exact absurd hraises (hnone fault e')
      · rw [hrecognised.readable] at hunread
        cases hunread
  | ok answer =>
      cases answer with
      | none =>
          obtain rfl := Stage.eq_of_ofConfiguration hs
          have hdeclined := exec_process_eq_none_iff.mp hprocess
          cases hrecognised.selected.symm.trans hdeclined
      | some response =>
          obtain ⟨course, path', hcourse, -⟩ := completes_of_exec_process hs hprocess
          cases hcourse.recognised.readable.symm.trans hrecognised.readable
          exact ⟨course, hcourse⟩

/-- A sign-out that stops logs no completion: that comes last. -/
theorem onward_of_exec_signOut_error
    (h : Run.exec (s.signOut principal) e = (.error fault, e')) : Frame.onward.Rel e e' := by
  cases hpath : e.request.urlPath with
  | error run =>
      rw [exec_signOut_of_unreadable hpath] at h
      cases h
      exact Frame.onward.refl _
  | ok path =>
      have hopened : Frame.onward.Rel e e.opened :=
        Frame.AllowsWork.answered e Response.initial
      have hhandler := Frame.onward_holds_perform s.handler principal
      rcases (exec_signOut_eq_error_iff hpath).mp h with hraised | ⟨e₂, hdone, hraised⟩
      · exact Frame.onward.trans hopened (hhandler.rel hraised)
      · have hsuccess := (Frame.onward_holds_give s.success principal).rel hraised
        exact Frame.onward.trans hopened (Frame.onward.trans (hhandler.rel hdone) hsuccess)

/-- Whatever stops the stage, no completion is logged. -/
theorem onward_of_exec_process_error
    (h : Run.exec (s.process principal) e = (.error fault, e')) : Frame.onward.Rel e e' := by
  have hasked := Frame.onward.holds_ask s.configuration.matcher
  rcases exec_process_eq_error_iff.mp h with hmatcher | ⟨e₁, hselected, hsignOut⟩
  · exact hasked.rel hmatcher
  · exact Frame.onward.trans (hasked.rel hselected) (onward_of_exec_signOut_error hsignOut)

/-! ## What the stage does -/

/-- A selected request whose target can be read is signed out unless a collaborator raises.  What
is recorded are the calls of the request matcher, then those of every handler, each run once and
for the given principal, then those of the matchers of the routes up to the first that selects the
request, and then those of the one success handler that this leaves.  Behind all of them the
completion is logged, once, with the status of the response that is returned. -/
theorem exec_process_complete (hs : Stage.ofConfiguration c = .ok s)
    (hselected : Run.exec c.matcher.ask e = (.ok true, e₁))
    (hreadable : e.request.urlPath = .ok path)
    (hnone : ∀ fault e', ¬ c.Raises principal e fault e') :
    ∃ course : Course, course.Completes c principal e path ∧
      Run.exec (s.process principal) e =
        (.ok (some course.answered.response),
          { course.answered with
            records := course.answered.records ++ [completion path course.answered] }) ∧
      course.answered.calls = e.calls ++ course.calls ∧
      course.handled.length = c.handlers.length ∧
      ∃ others, course.answered.records = e.records ++ others ∧
        ∀ r ∈ others, r.logger ≠ logger := by
  obtain ⟨course, hcourse⟩ := exists_completes hs ⟨hselected, hreadable⟩ hnone
  obtain ⟨-, hrecords⟩ := onward_of_completes hcourse
  exact ⟨course, hcourse, exec_process_of_completes hs hcourse, calls_eq_of_completes hcourse,
    hcourse.handled.calls_eq.1, hrecords⟩

/-- A configuration with two handlers, of which the first clears the user, and with two routes, of
which the second selects every request. -/
def sampleConfiguration : Configuration :=
  { logoutPath := some defaultLogoutPath
    methods := allowedMethods true
    matcher := .atom (.logout defaultLogoutPath (allowedMethods true))
    handlers := [.one (.clearContext .on .on), .many [.one .forgetUser]]
    routes := [(.atom (.probe "script" (.ok false)), .answer (.status (some 204))),
      (.atom (.probe "browser" (.ok true)), .answer (.recording "farewell" (some 200)))]
    fallback := .answer (.negotiating defaultLoginPath)
    loginPath := some defaultLoginPath }

/-- The user whom the sample signs out. -/
def samplePrincipal : Principal :=
  .user "ann" (some (.string "u1"))

/-- A request through the default path. -/
def sampleExchange : Exchange :=
  { now := 0
    request :=
      { path := defaultLogoutPath, method := "POST", query := "", headers := [], client := none
        session := some [("session_id", .string "s1")], user := none
        userContext := some (some samplePrincipal) }
    response := Response.initial, store := Store.empty, calls := [], records := [] }

theorem urlPath_sampleExchange : sampleExchange.request.urlPath = .ok defaultLogoutPath := by
  have hquery : ∀ c ∈ sampleExchange.request.query.toList, c.toNat < 0x80 := by
    intro c hc
    cases hc
  rw [Request.urlPath_of_ascii hquery]
  exact congrArg Except.ok (by decide)

theorem recognises_sample :
    sampleConfiguration.Recognises sampleExchange defaultLogoutPath sampleExchange where
  selected := by
    refine (Run.exec_bind_of_ok (Run.exec_urlPath_of_ok urlPath_sampleExchange)).trans ?_
    rfl
  readable := urlPath_sampleExchange

/-- The course of the sample: the second handler gets the user whom the first one cleared, and
both routes are asked. -/
def sampleCourse : Course :=
  let cleared := (Run.exec (Handler.perform (some samplePrincipal)
    (.many sampleConfiguration.handlers)) sampleExchange).2
  let routed := { cleared with calls := cleared.calls ++ [.probed "script", .probed "browser"] }
  let chosen : Success := .answer (.recording "farewell" (some 200))
  { asked := [], matched := sampleExchange
    handled := [[], [.forgotten (some samplePrincipal)]], cleared
    tried := [[.probed "script"], [.probed "browser"]], chosen, routed
    given := [.succeeded "farewell" (some samplePrincipal)]
    answered := (Run.exec (chosen.give (some samplePrincipal)) routed).2 }

theorem completes_sampleCourse :
    sampleCourse.Completes sampleConfiguration (some samplePrincipal) sampleExchange
      defaultLogoutPath where
  recognised := recognises_sample
  matched_eq := rfl
  handled := .cons rfl rfl (.cons rfl rfl (.nil _))
  chosen := .cons rfl rfl (.first rfl rfl)
  answered := rfl
  answered_calls := rfl

theorem exec_process_complete_sample :
    ∃ s, Stage.ofConfiguration sampleConfiguration = .ok s ∧
      (∀ fault e', ¬ sampleConfiguration.Raises (some samplePrincipal) sampleExchange fault e') ∧
      ∃ course : Course,
        course.Completes sampleConfiguration (some samplePrincipal) sampleExchange
          defaultLogoutPath ∧
        (Run.exec (s.process (some samplePrincipal)) sampleExchange).1 =
          .ok (some course.answered.response) := by
  have hprocess := exec_process_of_completes rfl completes_sampleCourse
  have hnone : ∀ fault e',
      ¬ sampleConfiguration.Raises (some samplePrincipal) sampleExchange fault e' := by
    intro fault e' hraises
    rw [exec_process_of_raises rfl hraises] at hprocess
    cases hprocess
  obtain ⟨course, hcourse, hdone, -⟩ := exec_process_complete rfl recognises_sample.selected
    recognises_sample.readable hnone
  refine ⟨_, rfl, hnone, course, hcourse, ?_⟩
  rw [hdone]

/-- A request with a byte in its query that is no text. -/
def unreadableExchange : Exchange :=
  { sampleExchange with request := { sampleExchange.request with query := "ÿ" } }

/-- A configuration that selects every request and answers with a bare status. -/
def bareConfiguration : Configuration :=
  { sampleConfiguration with
    matcher := .atom .everything, handlers := [], routes := []
    fallback := .answer (.status (some 204)) }

/-- A selected request can stop the stage although no collaborator raises: without handlers and
routes, and with a success handler that always completes, there is no answer to a request whose
target cannot be read. -/
theorem exec_process_unreadable :
    ∃ s, Stage.ofConfiguration bareConfiguration = .ok s ∧
      Run.exec bareConfiguration.matcher.ask unreadableExchange = (.ok true, unreadableExchange) ∧
      bareConfiguration.handlers = [] ∧ bareConfiguration.routes = [] ∧
      (∀ principal e, (Run.exec (bareConfiguration.fallback.give principal) e).1 = .ok ()) ∧
      ∀ principal, ∃ fault,
        Run.exec (s.process principal) unreadableExchange = (.error fault, unreadableExchange) := by
  have hunreadable : ∃ run, unreadableExchange.request.urlPath = .error run := by
    have hbytes : unreadableExchange.request.query.toList.map Char.toNat = [0xFF] := rfl
    unfold Request.urlPath Text.undecodableRun? Text.undecodableFrom?
    rw [hbytes]
    exact ⟨_, rfl⟩
  obtain ⟨run, hrun⟩ := hunreadable
  refine ⟨_, rfl, rfl, rfl, rfl, fun _ _ => rfl, fun principal => ⟨.undecodable run, ?_⟩⟩
  exact exec_process_eq_error_iff.mpr (Or.inr ⟨_, rfl, exec_signOut_of_unreadable hrun⟩)

/-- A collaborator that raises ends the stage at once, with its own fault and in the exchange that
it leaves.  A request matcher has recorded calls at most.  A handler has added to what the
handlers ahead of it left, and a part of the request that it does not write is as they left it.
The matcher of a route has recorded calls at most behind the full effect of all handlers, and so
have the matchers ahead of the one success handler that is tried.  Nothing else stops the stage
but a target that cannot be read, and a stage that stops logs no completion. -/
theorem exec_process_raised (hs : Stage.ofConfiguration c = .ok s) (principal : Option Principal)
    (e : Exchange) :
    (∀ {fault e'}, Run.exec c.matcher.ask e = (.error fault, e') →
      Run.exec (s.process principal) e = (.error fault, e') ∧
        ∃ asked, e' = { e with calls := e.calls ++ asked }) ∧
    (∀ {path e₁}, c.Recognises e path e₁ →
      (∀ {before handler after blocks e₂ fault e'}, c.handlers = before ++ handler :: after →
        Handler.Handled principal before e₁.opened blocks e₂ →
        Run.exec (handler.perform principal) e₂ = (.error fault, e') →
        Run.exec (s.process principal) e = (.error fault, e') ∧
          (∃ own, e'.calls = e₁.calls ++ blocks.flatten ++ own) ∧
          ∀ {γ : Type} (part : Request → γ),
            (∀ a ∈ handler.actions, (Frame.keeping part).Admits a) →
            part e'.request = part e₂.request) ∧
      ∀ {blocks e₂}, Handler.Handled principal c.handlers e₁.opened blocks e₂ →
        (∀ {before matcher target after tried e₃ fault e'},
          c.routes = before ++ (matcher, target) :: after →
          Success.Declined before e₂ tried e₃ →
          Run.exec matcher.ask e₃ = (.error fault, e') →
          Run.exec (s.process principal) e = (.error fault, e') ∧
            ∃ asked, e' = { e₂ with calls := e₂.calls ++ tried.flatten ++ asked }) ∧
        (∀ {chosen tried e₃ fault e'}, Success.Chosen c.fallback c.routes e₂ chosen tried e₃ →
          Run.exec (chosen.give principal) e₃ = (.error fault, e') →
          Run.exec (s.process principal) e = (.error fault, e') ∧
            e₃ = { e₂ with calls := e₂.calls ++ tried.flatten } ∧
            ∃ own, e'.calls = e₃.calls ++ own)) ∧
    ∀ {fault e'}, Run.exec (s.process principal) e = (.error fault, e') →
      (c.Raises principal e fault e' ∨
        ∃ run, e.request.urlPath = .error run ∧ fault = .undecodable run) ∧
      ∃ others, e'.records = e.records ++ others ∧ ∀ r ∈ others, r.logger ≠ logger := by
  refine ⟨?_, ?_, ?_⟩
  -- the request matcher
  · intro fault e' hmatcher
    exact ⟨exec_process_of_raises hs (.matcher hmatcher),
      (Frame.asking.holds_ask c.matcher).rel hmatcher⟩
  · intro path e₁ hrecognised
    refine ⟨?_, ?_⟩
    -- a handler
    · intro before handler after blocks e₂ fault e' hhandlers hbefore hhandler
      refine ⟨exec_process_of_raises hs (.handler hrecognised hhandlers hbefore hhandler), ?_, ?_⟩
      · obtain ⟨own, hown⟩ :=
          Frame.exists_calls_eq (Frame.onward_holds_perform handler principal) hhandler
        rw [hbefore.calls_eq.2] at hown
        exact ⟨own, hown⟩
      · intro γ part hpart
        exact (Frame.holds_perform hpart principal).rel hhandler
    · intro blocks e₂ hhandled
      refine ⟨?_, ?_⟩
      -- the matcher of a route, and the success handler that was chosen
      · intro before matcher target after tried e₃ fault e' hroutes hbefore hmatcher
        refine ⟨exec_process_of_raises hs
          (.route hrecognised hhandled hroutes hbefore hmatcher), ?_⟩
        have htried : Frame.asking.Rel e₂ e₃ :=
          hbefore.rel fun route _ => Frame.asking.holds_ask route.1
        obtain ⟨asked, rfl⟩ := (Frame.asking.holds_ask matcher).rel hmatcher
        rw [Frame.eq_of_asking htried hbefore.calls_eq.2]
        exact ⟨asked, rfl⟩
      · intro chosen tried e₃ fault e' hchosen hsuccess
        refine ⟨exec_process_of_raises hs (.success hrecognised hhandled hchosen hsuccess),
          Frame.eq_of_asking hchosen.rel hchosen.calls_eq, ?_⟩
        exact Frame.exists_calls_eq (Frame.onward_holds_give chosen principal) hsuccess
  -- nothing else
  · intro fault e' hstop
    refine ⟨?_, (onward_of_exec_process_error hstop).2⟩
    rcases raises_of_exec_process hs hstop with hraises | ⟨run, hunread, hfault, -⟩
    · exact Or.inl hraises
    · exact Or.inr ⟨run, hunread, hfault⟩

/-- The sample with a handler that removes the stored session ahead of the one that clears the
request. -/
def removingConfiguration : Configuration :=
  { sampleConfiguration with
    handlers := [.one .forgetUser, .one (.removeSession .standard),
      .one (.clearContext .on .on)] }

/-- The sample with a store that keeps the session and refuses to touch its index. -/
def refusingExchange : Exchange :=
  { sampleExchange with
    store := { keys := ["auth_session:s1"], sets := [], refuses := some .remove } }

theorem exec_process_raised_sample :
    ∃ s e', Stage.ofConfiguration removingConfiguration = .ok s ∧
      Run.exec (s.process (some samplePrincipal)) refusingExchange =
        (.error (.raised "redis srem failed"), e') ∧
      e'.request = sampleExchange.request ∧ e'.store.keys = [] := by
  have hread : refusingExchange.request.urlPath = .ok defaultLogoutPath := urlPath_sampleExchange
  have hselected : Run.exec removingConfiguration.matcher.ask refusingExchange =
      (.ok true, refusingExchange) := by
    refine (Run.exec_bind_of_ok (Run.exec_urlPath_of_ok hread)).trans ?_
    rfl
  have hbefore : Handler.Handled (some samplePrincipal) [.one .forgetUser]
      refusingExchange.opened [[.forgotten (some samplePrincipal)]]
      { refusingExchange.opened with calls := [.forgotten (some samplePrincipal)] } :=
    .cons rfl rfl (.nil _)
  have hadmits : ∀ a ∈ Chain.actions (.one (.removeSession .standard)),
      (Frame.keeping id).Admits a := by
    intro a ha
    exact Frame.admits_of_mem_one ha trivial
  have hhandlers : removingConfiguration.handlers =
      [.one .forgetUser] ++ .one (.removeSession .standard) :: [.one (.clearContext .on .on)] :=
    rfl
  have hs : Stage.ofConfiguration removingConfiguration =
      .ok ⟨removingConfiguration, .many removingConfiguration.handlers,
        .routed removingConfiguration.routes removingConfiguration.fallback⟩ :=
    rfl
  obtain ⟨-, hcourse, -⟩ := exec_process_raised hs (some samplePrincipal) refusingExchange
  obtain ⟨hstop, -, hkept⟩ := (hcourse ⟨hselected, hread⟩).1 hhandlers hbefore rfl
  exact ⟨_, _, hs, hstop, hkept id hadmits, rfl⟩

end Stage

end SignOut
