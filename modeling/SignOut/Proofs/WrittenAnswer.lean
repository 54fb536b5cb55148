import SignOut.Proofs.Bond
import SignOut.Proofs.Sending

/-!
# What an answer writes

A success handler writes to a response that the chain has already written to, so it finds header
lines in any order and with names that are repeated.  A redirect replaces the status and names its
target in one header line: the first line of that name is overwritten where it stands, or a line is
added behind all others, and no other line of that name is left.  An answer without content takes
the body away, and with the status for no content also the announced length.  Neither touches
anything else.  The negotiated answer is one of the two, whichever the request asks for.
-/

namespace SignOut

/-! ## Responses before and after an answer -/

namespace Response

/-- A response was turned into a redirect to a target. -/
structure RedirectsTo (target : String) (r r' : Response) : Prop where
  status : r'.status = some 302
  body : r'.body = r.body
  location : r'.headers.filter (·.1 = "location") = [("location", target)]
  others : r'.headers.filter (·.1 ≠ "location") = r.headers.filter (·.1 ≠ "location")
  place : SetIn "location" target r.headers r'.headers

/-- A response was turned into a bare status. -/
structure EmptiedTo (code : Option Int) (r r' : Response) : Prop where
  status : r'.status = code
  body : r'.body = ""
  unannounced : code = some 204 → r'.headers = r.headers.filter (·.1 ≠ "content-length")
  headers : code ≠ some 204 → r'.headers = r.headers

/-- The response that a redirect to a target leaves. -/
def redirected (r : Response) (target : String) : Response :=
  { r with status := some 302 }.setHeader "location" target

theorem redirectsTo_redirected (r : Response) (target : String) :
    RedirectsTo target r (r.redirected target) := by
  have hplace := setIn_setLine "location" target r.headers
  exact ⟨rfl, rfl, hplace.filter_eq, hplace.filter_ne, hplace⟩

theorem emptiedTo_withoutContent (r : Response) (code : Option Int) :
    EmptiedTo code r (r.withoutContent code) := by
  unfold withoutContent
  by_cases hcode : code = some 204
  · simp only [if_pos hcode]
    exact ⟨rfl, rfl, fun _ => rfl, fun hother => absurd hcode hother⟩
  · simp only [if_neg hcode]
    exact ⟨rfl, rfl, fun hsame => absurd hsame hcode, fun _ => rfl⟩

/-- No response is a redirect and has no content at once. -/
theorem not_redirectsTo_and_emptiedTo {target : String} {r r' : Response} :
    ¬ (RedirectsTo target r r' ∧ EmptiedTo (some Success.noContentStatus) r r') := by
  rintro ⟨hredirects, hemptied⟩
  have hstatus : (some 302 : Option Int) = some 204 :=
    hredirects.status.symm.trans hemptied.status
  simp at hstatus

end Response

/-! ## What a request asks for -/

namespace Request

/-- The answer that a request asks for by its headers. -/
def negotiated (r : Request) : Outcome :=
  Negotiation.outcome (r.headerValue? "accept") (r.headerValue? "x-requested-with")

end Request

/-- No handler touches what a request asks for: its target, its method and its header lines. -/
theorem Frame.keeping_outline_admits (a : Handler.Action) :
    (Frame.keeping Request.outline).Admits a := by
  refine admits_of_deeds ?_ ?_
  · intro session authentication _ e
    cases session.isOn <;> cases authentication.isOn <;> rfl
  · intro collaborator _ principal e
    rfl

/-- A stage comes to its success handler with the request as it came in, apart from its session and
its user. -/
theorem Configuration.outline_eq_of_chosen {c : Configuration} {principal : Option Principal}
    {e e₁ e₂ e₃ : Exchange} {path : String} {blocks tried : List (List Call)} {chosen : Success}
    (hrecognised : c.Recognises e path e₁)
    (hhandled : Handler.Handled principal c.handlers e₁.opened blocks e₂)
    (hchosen : Success.Chosen c.fallback c.routes e₂ chosen tried e₃) :
    e₃.request.outline = e.request.outline := by
  have hmatched : e₁.request.outline = e.request.outline :=
    ((Frame.keeping Request.outline).holds_ask c.matcher).rel hrecognised.selected
  have hcleared : e₂.request.outline = e₁.opened.request.outline :=
    hhandled.rel (F := Frame.keeping Request.outline) fun handler _ =>
      Frame.holds_perform (fun a _ => Frame.keeping_outline_admits a) principal
  have hrouted : e₃.request.outline = e₂.request.outline :=
    hchosen.rel (F := Frame.keeping Request.outline)
  exact hrouted.trans (hcleared.trans hmatched)

/-! ## Success handlers -/

namespace Success

variable {e : Exchange} {path url : String}

theorem exec_resolve (e : Exchange) :
    Run.exec resolve e = (.ok e.request.negotiated, e) := by
  have haccept : e.request.header? "accept" = .ok (e.request.headerValue? "accept") :=
    Request.header?_of_isLatin1 Request.isLatin1_accept e.request
  have hmarker : e.request.header? scriptHeader =
      .ok (e.request.headerValue? "x-requested-with") :=
    Request.header?_of_isLatin1 Request.isLatin1_scriptHeader e.request
  exact exec_resolve_of_ok haccept hmarker

/-- A redirect to a target that can be sent is written. -/
theorem exec_writeRedirect (hurl : Text.IsLatin1 url.toList) (e : Exchange) :
    Run.exec (writeRedirect (some url)) e =
      (.ok (), { e with response := e.response.redirected url }) := by
  unfold writeRedirect Run.setHeader
  rw [Run.exec_bind_of_ok (Run.exec_modifyResponse _ e),
    Run.exec_bind_of_ok (Run.exec_requireLatin1 hurl _)]
  rfl

/-- The negotiated answer is the one that the request asks for. -/
theorem exec_writeNegotiated (hpath : e.request.urlPath = .ok path) (loginPath : String) :
    Run.exec (writeNegotiated loginPath) e =
      match e.request.negotiated with
      | .noContent => Run.exec (writeStatus (some noContentStatus)) e
      | .redirect => Run.exec (writeRedirect (some (loginTarget loginPath))) e := by
  unfold writeNegotiated
  rw [Run.exec_bind_of_ok (exec_resolve e), Run.exec_bind_of_ok (Run.exec_urlPath_of_ok hpath)]
  cases e.request.negotiated with
  | noContent => rfl
  | redirect => rfl

theorem exists_writeRedirect (hurl : Text.IsLatin1 url.toList) (e : Exchange) :
    ∃ r, Run.exec (writeRedirect (some url)) e = (.ok (), { e with response := r }) ∧
      Response.RedirectsTo url e.response r :=
  ⟨_, exec_writeRedirect hurl e, Response.redirectsTo_redirected _ _⟩

theorem exists_writeStatus (code : Option Int) (e : Exchange) :
    ∃ r, Run.exec (writeStatus code) e = (.ok (), { e with response := r }) ∧
      Response.EmptiedTo code e.response r :=
  ⟨_, rfl, Response.emptiedTo_withoutContent _ _⟩

/-- A request whose target can be read gets the answer that it asks for and not the other one,
unless that is a redirect to a target that cannot be sent. -/
theorem exists_writeNegotiated {loginPath : String} (hpath : e.request.urlPath = .ok path)
    (hlatin : e.request.negotiated = .redirect → Text.IsLatin1 (loginTarget loginPath).toList) :
    ∃ r, Run.exec (writeNegotiated loginPath) e = (.ok (), { e with response := r }) ∧
      (e.request.negotiated = .redirect ↔
        Response.RedirectsTo (loginTarget loginPath) e.response r) ∧
      (e.request.negotiated = .noContent ↔
        Response.EmptiedTo (some noContentStatus) e.response r) := by
  rw [exec_writeNegotiated hpath]
  cases hnegotiated : e.request.negotiated with
  | redirect =>
      obtain ⟨r, hwritten, hredirects⟩ := exists_writeRedirect (hlatin hnegotiated) e
      have hother : ¬ Response.EmptiedTo (some noContentStatus) e.response r :=
        fun hemptied => Response.not_redirectsTo_and_emptiedTo ⟨hredirects, hemptied⟩
      exact ⟨r, hwritten, by simpa using hredirects, by simpa using hother⟩
  | noContent =>
      obtain ⟨r, hwritten, hemptied⟩ := exists_writeStatus (some noContentStatus) e
      have hother : ¬ Response.RedirectsTo (loginTarget loginPath) e.response r :=
        fun hredirects => Response.not_redirectsTo_and_emptiedTo ⟨hredirects, hemptied⟩
      exact ⟨r, hwritten, by simpa using hother, by simpa using hemptied⟩

/-- What the library's own success handlers write, whatever response the chain has left.  All of
them leave everything but the response alone.  A redirect to a target that can be sent sets the
status and the one line with the target, at the place of the first such line or at the end, and
keeps the body and all other lines.  A bare status sets the status, empties the body, and takes away
the announced length if and only if it is the one for no content.  The negotiated answer is exactly
one of the two, if the target of the request can be read; and it can wherever a stage comes to its
success handler. -/
theorem give_response (principal : Option Principal) (e : Exchange) :
    (∀ url, Text.IsLatin1 url.toList →
      ∃ r, Run.exec (give principal (.answer (.redirect url))) e = (.ok (), { e with response := r }) ∧
        Response.RedirectsTo url e.response r) ∧
    (∀ code,
      ∃ r, Run.exec (give principal (.answer (.status code))) e = (.ok (), { e with response := r }) ∧
        Response.EmptiedTo code e.response r) ∧
    (∀ loginPath path, e.request.urlPath = .ok path →
      (e.request.negotiated = .redirect → Text.IsLatin1 (loginTarget loginPath).toList) →
      ∃ r, Run.exec (give principal (.answer (.negotiating loginPath))) e =
          (.ok (), { e with response := r }) ∧
        (e.request.negotiated = .redirect ↔
          Response.RedirectsTo (loginTarget loginPath) e.response r) ∧
        (e.request.negotiated = .noContent ↔
          Response.EmptiedTo (some noContentStatus) e.response r)) ∧
    ∀ {c e₀ path e₁ blocks e₂ chosen tried}, Configuration.Recognises c e₀ path e₁ →
      Handler.Handled principal c.handlers e₁.opened blocks e₂ →
      Chosen c.fallback c.routes e₂ chosen tried e → e.request.urlPath = .ok path := by
  refine ⟨fun url hurl => exists_writeRedirect hurl e, fun code => exists_writeStatus code e,
    fun loginPath path hpath hlatin => exists_writeNegotiated hpath hlatin, ?_⟩
  intro c e₀ path e₁ blocks e₂ chosen tried hrecognised hhandled hchosen
  have houtline := Configuration.outline_eq_of_chosen hrecognised hhandled hchosen
  rw [Request.urlPath_eq_of_outline houtline, hrecognised.readable]

/-- A response with a body and with two lines for its target and its length each. -/
def crowded : Response :=
  { status := some 500, body := "abc"
    headers := [("set-cookie", "a=1"), ("location", "/old"), ("content-length", "3"),
      ("location", "/older"), ("content-length", "0")] }

/-- The sample with that response, for a request with the given header lines. -/
def crowdedExchange (headers : List HeaderLine) : Exchange :=
  { Stage.sampleExchange with
    request := { Stage.sampleExchange.request with headers }, response := crowded }

theorem give_response_sample :
    (∃ r, Run.exec (give none (.answer (.redirect "/bye"))) (crowdedExchange []) =
        (.ok (), { crowdedExchange [] with response := r }) ∧
      Response.RedirectsTo "/bye" crowded r ∧
      r.headers = [("set-cookie", "a=1"), ("location", "/bye"), ("content-length", "3"),
        ("content-length", "0")]) ∧
    (∃ r, Run.exec (give none (.answer (.negotiating "/login"))) (crowdedExchange []) =
        (.ok (), { crowdedExchange [] with response := r }) ∧
      Response.RedirectsTo "/login?logout" crowded r) ∧
    (let scripted := crowdedExchange [("x-requested-with", "XMLHttpRequest")]
      ∃ r, Run.exec (give none (.answer (.negotiating "/login"))) scripted =
          (.ok (), { scripted with response := r }) ∧
        Response.EmptiedTo (some 204) crowded r ∧
        r.headers = [("set-cookie", "a=1"), ("location", "/old"), ("location", "/older")]) ∧
    Stage.sampleCourse.routed.request.urlPath = .ok defaultLogoutPath := by
  have hreadable : ∀ headers, (crowdedExchange headers).request.urlPath = .ok defaultLogoutPath :=
    fun _ => Stage.urlPath_sampleExchange
  have hbrowsing : (crowdedExchange []).request.negotiated = .redirect := by
    decide +kernel
  have hscripted :
      (crowdedExchange [("x-requested-with", "XMLHttpRequest")]).request.negotiated = .noContent := by
    decide
  refine ⟨?_, ?_, ?_, ?_⟩
  · obtain ⟨r, hwritten, hredirects⟩ :=
      (give_response none (crowdedExchange [])).1 "/bye" (by simp [Text.isLatin1])
    have hr : r = crowded.redirected "/bye" := congrArg (·.2.response) hwritten.symm
    exact ⟨r, hwritten, hredirects, by rw [hr]; rfl⟩
  · obtain ⟨r, hwritten, hredirects, -⟩ := (give_response none (crowdedExchange [])).2.2.1 "/login"
      _ (hreadable []) fun _ => by simp [loginTarget, Text.isLatin1]
    exact ⟨r, hwritten, hredirects.mp hbrowsing⟩
  · obtain ⟨r, hwritten, -, hemptied⟩ := (give_response none _).2.2.1 "/login" _ (hreadable _)
      fun hredirect => by rw [hscripted] at hredirect; simp at hredirect
    have hemptied := hemptied.mp hscripted
    exact ⟨r, hwritten, hemptied, (hemptied.unannounced rfl).trans (by decide)⟩
  · exact (give_response _ _).2.2.2 Stage.completes_sampleCourse.recognised
      Stage.completes_sampleCourse.handled Stage.completes_sampleCourse.chosen

end Success

end SignOut
