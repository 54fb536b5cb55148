import SignOut.Proofs.History
import SignOut.Proofs.Processing

/-!
# Which requests are signed out

A built filter first decides whether a request is its business.  Unless the history of its assembly
sets a matcher, the decision is the sign-out path and the method: the path is the first that was
set, and the methods are those that the last word on request-forgery protection allows, however
the calls follow each other.  Every other request passes through and leaves the whole exchange as
it was.  Where the history sets a matcher, the last one decides alone.

The target of a request is read as a whole, so that a query which is no text hides the path, too.
Such a request is refused with a fault before anything is done, whatever its method is.
-/

namespace SignOut

/-! ## Filters -/

namespace StageFilter

/-- The exchange in which the stage of a filter starts: a decorated one has recorded its call. -/
def entered (e : Exchange) : StageFilter → Exchange
  | .stage _ => e
  | .decorated _ => { e with calls := e.calls ++ [.decoratedProcess] }

/-- A filter acts on a request: it answers or stops. -/
def ActsOn (filter : StageFilter) (principal : Option Principal) (e : Exchange) : Prop :=
  ∀ e', Run.exec (filter.process principal) e ≠ (.ok none, e')

/-- A filter lets a request pass: there is no answer, and nothing is changed. -/
def LetsPass (filter : StageFilter) (principal : Option Principal) (e : Exchange) : Prop :=
  Run.exec (filter.process principal) e = (.ok none, filter.entered e)

variable {filter : StageFilter} {principal : Option Principal} {e e₁ : Exchange} {fault : Fault}

@[simp] theorem request_entered (filter : StageFilter) (e : Exchange) :
    (filter.entered e).request = e.request := by
  cases filter <;> rfl

theorem exec_process (filter : StageFilter) (principal : Option Principal) (e : Exchange) :
    Run.exec (filter.process principal) e =
      Run.exec (filter.bare.process principal) (filter.entered e) := by
  cases filter <;> rfl

/-- A request that the matcher selects is acted on. -/
theorem actsOn_of_selected
    (h : Run.exec filter.bare.configuration.matcher.ask (filter.entered e) = (.ok true, e₁)) :
    filter.ActsOn principal e := by
  intro e' hnone
  rw [exec_process] at hnone
  cases h.symm.trans (Stage.exec_process_eq_none_iff.mp hnone)

/-- A request that the matcher declines has no answer, and the matcher was all that ran. -/
theorem exec_process_of_declined
    (h : Run.exec filter.bare.configuration.matcher.ask (filter.entered e) = (.ok false, e₁)) :
    Run.exec (filter.process principal) e = (.ok none, e₁) := by
  rw [exec_process]
  exact Stage.exec_process_eq_none_iff.mpr h

/-- A matcher that stops is all that ran. -/
theorem exec_process_of_stopped
    (h : Run.exec filter.bare.configuration.matcher.ask (filter.entered e) = (.error fault, e₁)) :
    Run.exec (filter.process principal) e = (.error fault, e₁) := by
  rw [exec_process]
  exact Stage.exec_process_eq_error_iff.mpr (Or.inl h)

end StageFilter

/-! ## The matcher of a path and methods -/

namespace Matcher

variable {target path : String} {methods : List String} {e : Exchange}

theorem exec_ask_logout (hpath : e.request.urlPath = .ok path) :
    Run.exec (Matcher.ask (.atom (.logout target methods))) e =
      (.ok (path == target && e.request.upperMethod ∈ methods), e) :=
  Run.exec_bind_of_ok (Run.exec_urlPath_of_ok hpath)

theorem exec_ask_logout_of_unreadable {run : Text.UndecodableRun}
    (hpath : e.request.urlPath = .error run) :
    Run.exec (Matcher.ask (.atom (.logout target methods))) e =
      (.error (.undecodable run), e) :=
  Run.exec_bind_of_error (Run.exec_urlPath_of_error hpath)

end Matcher

/-! ## The decision of a history -/

namespace Assembly

/-- The sign-out path of a history: the first one that is set. -/
def logoutPath (calls : List Call) : String :=
  (firstGiven Options.Call.path? (optionCalls calls)).getD defaultLogoutPath

/-- Whether a history leaves request-forgery protection on. -/
def protects (calls : List Call) : Bool :=
  (lastGiven Call.csrfEnabled? calls).getD true

/-- The matcher that a history sets: the last one that is accepted. -/
def givenMatcher (calls : List Call) : Option Matcher :=
  lastGiven Options.Call.matcher? (optionCalls calls)

/-- A request asks for a sign-out: it goes to the sign-out path, and by a method that may trigger a
sign-out.  That is POST, and three more while there is no request-forgery protection. -/
structure Selects (calls : List Call) (r : Request) : Prop where
  path : r.urlPath = .ok (logoutPath calls)
  method : r.upperMethod = "POST" ∨
    protects calls = false ∧ r.upperMethod ∈ ["GET", "PUT", "DELETE"]

variable {calls : List Call} {c : Configuration} {filter : StageFilter}
  {principal : Option Principal} {e : Exchange} {path : String}

theorem mem_ordered_allowedMethods {protection : Bool} {method : String} :
    method ∈ Text.ordered ((allowedMethods protection).map Text.upperText) ↔
      method = "POST" ∨ protection = false ∧ method ∈ ["GET", "PUT", "DELETE"] := by
  have hupper : (allowedMethods protection).map Text.upperText = allowedMethods protection := by
    cases protection <;> decide
  rw [Text.mem_ordered, hupper]
  cases protection with
  | true => simp [allowedMethods]
  | false =>
      simp only [allowedMethods, Bool.false_eq_true, if_false, true_and, List.mem_cons,
        List.not_mem_nil, or_false]
      -- the same four methods in another order
      constructor
      · rintro (rfl | rfl | rfl | rfl) <;> simp
      · rintro (rfl | rfl | rfl | rfl) <;> simp

/-- The request matcher of a history is the one that it sets, if this one counts as true, or else
its path and its methods. -/
theorem matcher_of_buildConfiguration
    (h : (initial.applyAll calls).buildConfiguration = .ok c) :
    c.matcher = ((givenMatcher calls).filter Matcher.isTrue).getD (.atom (.logout (logoutPath calls)
      (Text.ordered ((allowedMethods (protects calls)).map Text.upperText)))) := by
  obtain ⟨-, hmatcher, -⟩ := Options.eq_of_snapshot (snapshot_of_buildConfiguration h)
  unfold Options.effectiveMatcher at hmatcher
  split at hmatcher
  · rename_i matcher hgiven
    have hgiven : (givenMatcher calls).filter Matcher.isTrue = some matcher := hgiven
    rw [hgiven, ← Except.ok.inj hmatcher]
    rfl
  · rename_i hnone
    have hnone : (givenMatcher calls).filter Matcher.isTrue = none := hnone
    rw [hnone, ← Except.ok.inj hmatcher]
    rfl

/-- The stage of a filter that was built asks the matcher of its history. -/
theorem matcher_bare_of_build (h : (initial.applyAll calls).build.result = .ok filter) :
    filter.bare.configuration.matcher =
      ((givenMatcher calls).filter Matcher.isTrue).getD (.atom (.logout (logoutPath calls)
        (Text.ordered ((allowedMethods (protects calls)).map Text.upperText)))) := by
  obtain ⟨c, hc, hs⟩ := exists_bare_of_build h
  rw [Stage.eq_of_ofConfiguration hs]
  exact matcher_of_buildConfiguration hc

/-- Without a matcher of its own, a history has its path and its methods asked. -/
theorem matcher_bare_of_none (h : (initial.applyAll calls).build.result = .ok filter)
    (hnone : givenMatcher calls = none) :
    filter.bare.configuration.matcher = .atom (.logout (logoutPath calls)
      (Text.ordered ((allowedMethods (protects calls)).map Text.upperText))) := by
  rw [matcher_bare_of_build h, hnone]
  rfl

/-- A matcher of its own that counts as true is the one that a history has asked. -/
theorem matcher_bare_of_some (h : (initial.applyAll calls).build.result = .ok filter)
    {matcher : Matcher} (hgiven : givenMatcher calls = some matcher)
    (htrue : matcher.isTrue = true) : filter.bare.configuration.matcher = matcher := by
  rw [matcher_bare_of_build h, hgiven, Option.filter_some, if_pos htrue]
  rfl

/-- Without a matcher of its own, a history has the requests selected that it selects. -/
theorem exec_ask_of_selects (hbuilt : (initial.applyAll calls).build.result = .ok filter)
    (hnone : givenMatcher calls = none) (h : Selects calls e.request) :
    Run.exec filter.bare.configuration.matcher.ask (filter.entered e) =
      (.ok true, filter.entered e) := by
  have hpath : (filter.entered e).request.urlPath = .ok (logoutPath calls) := by
    rw [StageFilter.request_entered]
    exact h.path
  have hmethod : (filter.entered e).request.upperMethod ∈
      Text.ordered ((allowedMethods (protects calls)).map Text.upperText) := by
    rw [StageFilter.request_entered]
    exact mem_ordered_allowedMethods.mpr h.method
  have hselected : (logoutPath calls == logoutPath calls &&
      decide ((filter.entered e).request.upperMethod ∈
        Text.ordered ((allowedMethods (protects calls)).map Text.upperText))) = true := by
    rw [beq_self_eq_true, Bool.true_and]
    exact decide_eq_true hmethod
  rw [matcher_bare_of_none hbuilt hnone, Matcher.exec_ask_logout hpath,
    hselected]

/-- Without a matcher of its own, a history recognises the requests that it selects. -/
theorem recognises_of_selects (hbuilt : (initial.applyAll calls).build.result = .ok filter)
    (hnone : givenMatcher calls = none) (h : Selects calls e.request) :
    filter.bare.configuration.Recognises (filter.entered e) (logoutPath calls)
      (filter.entered e) where
  selected := exec_ask_of_selects hbuilt hnone h
  readable := by
    rw [StageFilter.request_entered]
    exact h.path

/-- Without a matcher of its own, a history acts on the requests that it selects. -/
theorem actsOn_of_selects (hbuilt : (initial.applyAll calls).build.result = .ok filter)
    (hnone : givenMatcher calls = none) (h : Selects calls e.request) :
    filter.ActsOn principal e :=
  StageFilter.actsOn_of_selected (exec_ask_of_selects hbuilt hnone h)

/-- Without a matcher of its own, a history lets every readable request pass that it does not
select. -/
theorem letsPass_of_not_selects (hbuilt : (initial.applyAll calls).build.result = .ok filter)
    (hnone : givenMatcher calls = none) (hreadable : e.request.urlPath = .ok path)
    (h : ¬ Selects calls e.request) : filter.LetsPass principal e := by
  have hpath : (filter.entered e).request.urlPath = .ok path := by
    rw [StageFilter.request_entered]
    exact hreadable
  have hdeclined : (path == logoutPath calls && decide ((filter.entered e).request.upperMethod ∈
      Text.ordered ((allowedMethods (protects calls)).map Text.upperText))) = false := by
    rw [Bool.eq_false_iff]
    intro hboth
    obtain ⟨hsame, hmember⟩ := Bool.and_eq_true_iff.mp hboth
    have hmethod := mem_ordered_allowedMethods.mp (of_decide_eq_true hmember)
    rw [StageFilter.request_entered] at hmethod
    exact h ⟨by rw [hreadable, eq_of_beq hsame], hmethod⟩
  refine StageFilter.exec_process_of_declined ?_
  rw [matcher_bare_of_none hbuilt hnone, Matcher.exec_ask_logout hpath,
    hdeclined]

/-- Without a matcher of its own, a history stops at a target that cannot be read. -/
theorem exec_process_of_unreadable (hbuilt : (initial.applyAll calls).build.result = .ok filter)
    (hnone : givenMatcher calls = none) {run : Text.UndecodableRun}
    (hunreadable : e.request.urlPath = .error run) :
    Run.exec (filter.process principal) e = (.error (.undecodable run), filter.entered e) := by
  have hpath : (filter.entered e).request.urlPath = .error run := by
    rw [StageFilter.request_entered]
    exact hunreadable
  refine StageFilter.exec_process_of_stopped ?_
  rw [matcher_bare_of_none hbuilt hnone]
  exact Matcher.exec_ask_logout_of_unreadable hpath

/-- Which requests a built filter acts on, whatever calls it was built from.  If no matcher was set,
these are the requests to the sign-out path by an allowed method; every other request that can be
read passes and changes nothing, and one that cannot be read is refused before anything is done.
So while protection is on, no method but POST has an effect or an answer.  If a matcher was set that
counts as true, it alone decides: the path and the method have no say. -/
theorem actsOn_iff_of_build (hbuilt : (initial.applyAll calls).build.result = .ok filter)
    (principal : Option Principal) (e : Exchange) :
    (givenMatcher calls = none →
      (∀ path, e.request.urlPath = .ok path →
        (filter.ActsOn principal e ↔ Selects calls e.request) ∧
        (¬ Selects calls e.request → filter.LetsPass principal e)) ∧
      (∀ run, e.request.urlPath = .error run →
        Run.exec (filter.process principal) e = (.error (.undecodable run), filter.entered e)) ∧
      (protects calls = true → e.request.upperMethod ≠ "POST" → ∀ result e',
        Run.exec (filter.process principal) e = (result, e') →
          e' = filter.entered e ∧ ∀ response, result ≠ .ok (some response))) ∧
    ∀ matcher, givenMatcher calls = some matcher → matcher.isTrue = true → ∀ answer e₁,
      Run.exec matcher.ask (filter.entered e) = (answer, e₁) →
        (∃ asked, e₁ = { filter.entered e with calls := (filter.entered e).calls ++ asked }) ∧
        (answer = .ok true → filter.ActsOn principal e) ∧
        (answer = .ok false → Run.exec (filter.process principal) e = (.ok none, e₁)) ∧
        ∀ fault, answer = .error fault →
          Run.exec (filter.process principal) e = (.error fault, e₁) := by
  refine ⟨?_, ?_⟩
  · intro hnone
    refine ⟨?_, fun run hunreadable => exec_process_of_unreadable hbuilt hnone hunreadable, ?_⟩
    · intro path hreadable
      refine ⟨⟨?_, actsOn_of_selects hbuilt hnone⟩,
        letsPass_of_not_selects hbuilt hnone hreadable⟩
      intro hacts
      refine Classical.byContradiction fun hselects => ?_
      exact hacts _ (letsPass_of_not_selects hbuilt hnone hreadable hselects)
    · intro hprotects hmethod result e' hprocess
      cases hpath : e.request.urlPath with
      | error run =>
          rw [exec_process_of_unreadable hbuilt hnone hpath] at hprocess
          cases hprocess
          exact ⟨rfl, fun response => nofun⟩
      | ok path =>
          have hselects : ¬ Selects calls e.request := by
            rintro ⟨-, hpost | ⟨hopen, -⟩⟩
            · exact hmethod hpost
            · rw [hprotects] at hopen
              cases hopen
          cases (letsPass_of_not_selects hbuilt hnone hpath hselects).symm.trans hprocess
          exact ⟨rfl, fun response => nofun⟩
  · intro matcher hgiven htrue answer e₁ hasked
    have hmatcher := matcher_bare_of_some hbuilt hgiven htrue
    refine ⟨(Frame.asking.holds_ask matcher).rel hasked, ?_, ?_, ?_⟩
    · rintro rfl
      exact StageFilter.actsOn_of_selected (hmatcher ▸ hasked)
    · rintro rfl
      exact StageFilter.exec_process_of_declined (hmatcher ▸ hasked)
    · rintro fault rfl
      exact StageFilter.exec_process_of_stopped (hmatcher ▸ hasked)

/-- A history that switches protection off and on again around its two paths. -/
def sampleProtected : List Call :=
  [.csrf false none, .logout [.ok (.setPath (some "/bye"))], .csrf true none,
    .logout [.ok (.setPath (some "/other"))]]

/-- A history that leaves the default path has a POST request through it selected. -/
theorem selects_sampleExchange (h : logoutPath calls = defaultLogoutPath) :
    Selects calls Stage.sampleExchange.request where
  path := h ▸ Stage.urlPath_sampleExchange
  method := Or.inl (by decide)

/-- A history that sets two matchers, of which the last selects every request. -/
def sampleMatched : List Call :=
  [.logout [.ok (.setRequestMatcher (.negation (.atom .everything))),
    .ok (.setRequestMatcher (.atom .everything))]]

/-- A request with a method and a path in an empty exchange. -/
def sampleRequest (method path : String) : Exchange :=
  { Stage.sampleExchange with
    request := { Stage.sampleExchange.request with method, path } }

theorem urlPath_sampleRequest (method path : String) :
    (sampleRequest method path).request.urlPath =
      .ok (String.ofList (Request.targetPath path.toList)) := by
  refine Request.urlPath_of_ascii fun c hc => ?_
  cases hc

theorem actsOn_sample :
    (∃ filter : StageFilter, (initial.applyAll sampleProtected).build.result = .ok filter ∧
      filter.ActsOn (some Stage.samplePrincipal) (sampleRequest "post" "/bye") ∧
      filter.LetsPass (some Stage.samplePrincipal) (sampleRequest "GET" "/bye") ∧
      filter.LetsPass (some Stage.samplePrincipal) (sampleRequest "POST" "/other")) ∧
    ∃ filter : StageFilter, (initial.applyAll sampleMatched).build.result = .ok filter ∧
      filter.ActsOn (some Stage.samplePrincipal) (sampleRequest "TRACE" "/anywhere") := by
  refine ⟨?_, ?_⟩
  · have hbuilt : ∃ s, (initial.applyAll sampleProtected).build.result =
        .ok (StageFilter.stage s) := ⟨_, rfl⟩
    obtain ⟨s, hs⟩ := hbuilt
    have hacts := fun e => (actsOn_iff_of_build hs (some Stage.samplePrincipal) e).1 rfl
    refine ⟨.stage s, hs, ?_, ?_, ?_⟩
    · refine ((hacts _).1 _ (urlPath_sampleRequest "post" "/bye")).1.mpr ⟨?_, Or.inl ?_⟩
      · rw [urlPath_sampleRequest]
        exact congrArg Except.ok (by decide)
      · decide
    · refine ((hacts _).1 _ (urlPath_sampleRequest "GET" "/bye")).2 ?_
      rintro ⟨-, hmethod⟩
      revert hmethod
      decide
    · refine ((hacts _).1 _ (urlPath_sampleRequest "POST" "/other")).2 ?_
      rintro ⟨hpath, -⟩
      rw [urlPath_sampleRequest] at hpath
      have hpath := Except.ok.inj hpath
      revert hpath
      decide
  · have hbuilt : ∃ s, (initial.applyAll sampleMatched).build.result =
        .ok (StageFilter.stage s) := ⟨_, rfl⟩
    obtain ⟨s, hs⟩ := hbuilt
    have hdecides := (actsOn_iff_of_build hs (some Stage.samplePrincipal)
      (sampleRequest "TRACE" "/anywhere")).2
    exact ⟨.stage s, hs, (hdecides _ rfl rfl _ _ rfl).2.1 rfl⟩

/-- A request by GET with a byte in its query that is no text. -/
def unreadableGet : Exchange :=
  { sampleRequest "GET" defaultLogoutPath with
    request := { (sampleRequest "GET" defaultLogoutPath).request with query := "ÿ" } }

/-- The target of a request with that query cannot be read. -/
theorem exists_urlPath_error {r : Request} (h : r.query = "ÿ") : ∃ run, r.urlPath = .error run := by
  have hbytes : r.query.toList.map Char.toNat = [0xFF] := by
    rw [h]
    rfl
  unfold Request.urlPath Text.undecodableRun? Text.undecodableFrom?
  rw [hbytes]
  exact ⟨_, rfl⟩

/-- A matcher of the application that holds nothing: it declines every request, and it counts as
false. -/
def emptyMatcher : Matcher :=
  .atom (.custom
    { typeName := "EmptyMatcher", isTrue := false, calls := fun _ => [], answer := fun _ => .ok false })

/-- What a filter acts on is not always what was to be expected.  A request that is not selected can
stop it all the same: by default GET triggers no sign-out, yet the filter stops at a target that
cannot be read.  And a matcher that counts as false is passed over, so that a request is signed out
that the matcher declines. -/
theorem actsOn_beyond_selection :
    (∃ filter : StageFilter, (initial.applyAll [.logout []]).build.result = .ok filter ∧
      givenMatcher [.logout []] = none ∧ protects [.logout []] = true ∧
      unreadableGet.request.upperMethod = "GET" ∧
      ¬ Selects [.logout []] unreadableGet.request ∧
      ∀ principal, ∃ fault,
        Run.exec (filter.process principal) unreadableGet = (.error fault, unreadableGet)) ∧
    ∃ filter : StageFilter,
      (initial.applyAll [.logout [.ok (.setRequestMatcher emptyMatcher)]]).build.result =
        .ok filter ∧
      givenMatcher [.logout [.ok (.setRequestMatcher emptyMatcher)]] = some emptyMatcher ∧
      Run.exec emptyMatcher.ask Stage.sampleExchange = (.ok false, Stage.sampleExchange) ∧
      ∀ principal, filter.ActsOn principal Stage.sampleExchange := by
  refine ⟨?unreadable, ?empty⟩
  case unreadable =>
    obtain ⟨run, hrun⟩ := exists_urlPath_error (r := unreadableGet.request) rfl
    have hmethod : unreadableGet.request.upperMethod = "GET" := by decide
    have hbuilt : ∃ s, (initial.applyAll [.logout []]).build.result = .ok (StageFilter.stage s) :=
      ⟨_, rfl⟩
    obtain ⟨s, hs⟩ := hbuilt
    refine ⟨.stage s, hs, rfl, rfl, hmethod, ?_, ?_⟩
    · rintro ⟨hpath, -⟩
      cases hrun.symm.trans hpath
    · exact fun principal => ⟨_, exec_process_of_unreadable hs rfl hrun⟩
  case empty =>
    have hbuilt : ∃ s, (initial.applyAll
        [.logout [.ok (.setRequestMatcher emptyMatcher)]]).build.result =
          .ok (StageFilter.stage s) := ⟨_, rfl⟩
    obtain ⟨s, hs⟩ := hbuilt
    have hmethod : decide (Stage.sampleExchange.request.upperMethod ∈
        Text.ordered ((allowedMethods true).map Text.upperText)) = true :=
      decide_eq_true (mem_ordered_allowedMethods.mpr (Or.inl (by decide)))
    have hselected : Run.exec s.configuration.matcher.ask Stage.sampleExchange =
        (.ok true, Stage.sampleExchange) := by
      have hmatcher : s.configuration.matcher = .atom (.logout defaultLogoutPath
          (Text.ordered ((allowedMethods true).map Text.upperText))) := matcher_bare_of_build hs
      rw [hmatcher, Matcher.exec_ask_logout Stage.urlPath_sampleExchange, hmethod, beq_self_eq_true]
      rfl
    exact ⟨.stage s, hs, rfl, rfl, fun principal => StageFilter.actsOn_of_selected hselected⟩

end Assembly

end SignOut
