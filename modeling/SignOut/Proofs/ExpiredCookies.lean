import SignOut.Proofs.Origin
import SignOut.Proofs.Script
import SignOut.Proofs.Serving

/-!
# Cookies stay expired

A cookie is expired by a header line of its own, and one lost line leaves a credential with the
client without any error.  The library writes to the header lines of a response in few ways, and
none of them touches a line that sets a cookie: lines are added behind the others, and only the
target of a redirect and the announced length are ever set or taken away.  So the lines that a
handler wrote are there in the end, in their order and each as often as it was written.  Main
statement: every answer of a filter that was built has, in the order of registration, one line for
each name of each handler that expires cookies.
-/

namespace SignOut

/-! ## Lines that set cookies -/

namespace Response

/-- The values of the header lines that set cookies. -/
def cookieLines (r : Response) : List String :=
  (r.headers.filter (·.1 = "set-cookie")).map (·.2)

variable (r : Response) {name : String} (value : String)

@[simp] theorem cookieLines_initial : initial.cookieLines = [] := rfl

/-- A header line that is added stands behind all lines that set cookies. -/
theorem cookieLines_addHeader (name : String) :
    (r.addHeader name value).cookieLines =
      r.cookieLines ++ if name = "set-cookie" then [value] else [] := by
  unfold cookieLines addHeader
  rw [List.filter_append, List.map_append]
  by_cases h : name = "set-cookie"
  · simp [h]
  · simp [h]

/-- Setting the header of another name keeps the lines that set cookies. -/
theorem cookieLines_setHeader (h : name ≠ "set-cookie") :
    (r.setHeader name value).cookieLines = r.cookieLines := by
  unfold cookieLines setHeader
  rw [(setIn_setLine name value r.headers).filter_of_ne h]

/-- Taking away the header of another name keeps the lines that set cookies. -/
theorem cookieLines_removeHeader (h : name ≠ "set-cookie") :
    (r.removeHeader name).cookieLines = r.cookieLines := by
  unfold cookieLines removeHeader
  rw [filter_filter_ne h]

end Response

@[simp] theorem Handler.cookieLines_withExpired (lines : List String) (e : Exchange) :
    (withExpired lines e).response.cookieLines = e.response.cookieLines ++ lines := by
  unfold withExpired Response.cookieLines
  simp [List.filter_map, Function.comp_def]

/-! ## What keeps the lines -/

/-- A collaborator keeps the lines that set cookies and which it found, in their order; it may
add others. -/
def Collaborator.KeepsCookies (c : Collaborator) : Prop :=
  ∀ principal (e : Exchange),
    e.response.cookieLines.Sublist (c.act principal e).response.cookieLines

/-- A part keeps the lines that set cookies: all parts of the library do. -/
def Part.KeepsCookies : Part → Prop
  | .handler (.custom collaborator) => collaborator.KeepsCookies
  | .success (.custom collaborator) => collaborator.KeepsCookies
  | _ => True

namespace Frame

/-- The frame of the lines that set cookies: they stay, in their order, and the clock stands. -/
def cookies : Frame where
  Rel e e' := e'.now = e.now ∧ e.response.cookieLines.Sublist e'.response.cookieLines
  refl _ := ⟨rfl, List.Sublist.refl _⟩
  trans h h' := ⟨h'.1.trans h.1, h.2.trans h'.2⟩
  recorded _ _ := ⟨rfl, List.Sublist.refl _⟩

theorem cookies_of_eq {e e' : Exchange} (hnow : e'.now = e.now)
    (hlines : e'.response.cookieLines = e.response.cookieLines) : cookies.Rel e e' :=
  ⟨hnow, hlines ▸ List.Sublist.refl _⟩

instance : cookies.AllowsWrites where
  deleted _ _ := cookies_of_eq rfl rfl
  removed _ _ _ := cookies_of_eq rfl rfl
  logged _ _ _ := cookies_of_eq rfl rfl
  restated e response hheaders := by
    refine cookies_of_eq rfl ?_
    unfold Response.cookieLines
    rw [hheaders]
  added e name value := by
    refine ⟨rfl, ?_⟩
    rw [Response.cookieLines_addHeader]
    exact List.sublist_append_left _ _
  located e target := cookies_of_eq rfl (Response.cookieLines_setHeader _ _ (by decide))
  unannounced e := cookies_of_eq rfl (Response.cookieLines_removeHeader _ (by decide))

theorem cookies_admits {a : Handler.Action} (h : Part.KeepsCookies (.handler a)) :
    cookies.Admits a := by
  cases a with
  | clearContext session authentication => exact fun e => ⟨rfl, List.Sublist.refl _⟩
  | custom collaborator => exact fun principal e => ⟨rfl, h principal e⟩
  | _ => trivial

theorem cookies_admitsAnswer {a : Success.Answer} (h : Part.KeepsCookies (.success a)) :
    cookies.AdmitsAnswer a := by
  cases a with
  | custom collaborator => exact fun principal e => ⟨rfl, h principal e⟩
  | _ => trivial

end Frame

/-! ## What expires cookies -/

/-- The header lines with which a single handler expires its cookies, one for each name, with its
path and domain. -/
def Handler.Action.deletions (now : Int) : Action → List (Except Calendar.MomentFault String)
  | .expireCookies names path domain => names.map fun name => Cookie.deletion name path domain now
  | _ => []

/-- The header lines with which a handler expires its cookies, in the order in which its single
handlers run. -/
def Handler.deletions (now : Int) (handler : Handler) :
    List (Except Calendar.MomentFault String) :=
  handler.actions.flatMap (Action.deletions now)

/-- Cookies were expired from one exchange to another: every header line could be written, and the
lines stand behind those that were there before. -/
def Exchange.Expires (deletions : List (Except Calendar.MomentFault String)) (e e' : Exchange) :
    Prop :=
  e'.now = e.now ∧ ∃ lines, deletions = lines.map .ok ∧
    (e.response.cookieLines ++ lines).Sublist e'.response.cookieLines

namespace Exchange.Expires

variable {deletions later : List (Except Calendar.MomentFault String)} {e e₁ e' : Exchange}

/-- Where only lines were added, no cookies had to be expired. -/
theorem of_rel (h : Frame.cookies.Rel e e') : Expires [] e e' :=
  ⟨h.1, [], rfl, by rw [List.append_nil]; exact h.2⟩

/-- What was expired stays expired while more is, and the lines keep their order. -/
theorem trans (h : Expires deletions e e₁) (h' : Expires later e₁ e') :
    Expires (deletions ++ later) e e' := by
  obtain ⟨hnow, lines, rfl, hlines⟩ := h
  obtain ⟨hnow', lines', rfl, hlines'⟩ := h'
  refine ⟨hnow'.trans hnow, lines ++ lines', by rw [List.map_append], ?_⟩
  rw [← List.append_assoc]
  exact (hlines.append_right lines').trans hlines'

theorem trans_rel (h : Expires deletions e e₁) (h' : Frame.cookies.Rel e₁ e') :
    Expires deletions e e' := by
  have hall := h.trans (of_rel h')
  rw [List.append_nil] at hall
  exact hall

end Exchange.Expires

open Exchange (Expires)

/-- Parts that run one after another expire the cookies of each. -/
theorem Run.InOrder.expires {ι α : Type} {act : ι → Run α} {result : α} {parts : List ι}
    {e e' : Exchange} {blocks : List (List Call)}
    {deletions : Int → ι → List (Except Calendar.MomentFault String)}
    (h : InOrder act result parts e blocks e')
    (hact : ∀ part ∈ parts, ∀ {e e'}, exec (act part) e = (.ok result, e') →
      Expires (deletions e.now part) e e') :
    Expires (parts.flatMap (deletions e.now)) e e' := by
  induction h with
  | nil e => exact .of_rel (Frame.cookies.refl e)
  | @cons part rest e e₁ e₂ calls blocks hpart hcalls hrest ih =>
      have hfirst := hact part List.mem_cons_self hpart
      have hlater := ih fun part hmem => hact part (List.mem_cons_of_mem _ hmem)
      -- the clock stands, so the date in the lines is that of the first part
      rw [hfirst.1] at hlater
      exact hfirst.trans hlater

namespace Handler

variable {principal : Option Principal} {e e' : Exchange}

/-- A single handler that completes has expired its cookies. -/
theorem Action.expires {a : Action} (hkeeps : Part.KeepsCookies (.handler a))
    (h : Run.exec (a.perform principal) e = (.ok (), e')) :
    Expires (a.deletions e.now) e e' := by
  have hkept : Frame.cookies.Rel e e' :=
    (Frame.holds_action_perform (Frame.cookies_admits hkeeps) principal).rel h
  -- the other handlers expire nothing by its name; that they keep the lines is all there is to show
  cases a with
  | expireCookies names path domain =>
      have hloop : Run.exec (names.forM fun name => Run.expireCookie name path domain) e =
          (.ok (), e') := by
        rw [← expireCookies_eq_forM]
        exact h
      obtain ⟨blocks, hnames⟩ := (Run.exec_forM_eq_ok_iff fun name =>
        Frame.onward.holds_expireCookie name path domain).mp hloop
      obtain ⟨lines, hlines, rfl⟩ := exists_lines_of_inOrder hnames
      refine ⟨rfl, lines, hlines, ?_⟩
      exact cookieLines_withExpired lines e ▸ List.Sublist.refl _
  | _ => exact .of_rel hkept

/-- A handler that completes has expired the cookies of all its single handlers. -/
theorem expires {handler : Handler}
    (hkeeps : ∀ a ∈ handler.actions, Part.KeepsCookies (.handler a))
    (h : Run.exec (handler.perform principal) e = (.ok (), e')) :
    Expires (handler.deletions e.now) e e' := by
  obtain ⟨blocks, hblocks⟩ := exec_perform_eq_ok_iff.mp h
  exact hblocks.expires fun a ha _ _ hexec => Action.expires (hkeeps a ha) hexec

end Handler

/-! ## Answers -/

namespace Configuration.Course.Completes

variable {course : Course} {c : Configuration} {principal : Option Principal} {e : Exchange}
  {path : String}

/-- A course that is taken to its end expires the cookies of its handlers: the success handler
keeps the lines that they wrote. -/
theorem expires (h : course.Completes c principal e path)
    (hkeeps : ∀ part ∈ c.parts, part.KeepsCookies) :
    Expires (c.handlers.flatMap (Handler.deletions e.now)) course.matched.opened
      course.answered := by
  have hhandled : Expires (c.handlers.flatMap (Handler.deletions course.matched.opened.now))
      course.matched.opened course.cleared :=
    h.handled.expires fun handler hmem _ _ hexec =>
      Handler.expires (fun a ha => hkeeps _ (handler_mem_parts hmem ha)) hexec
  have hnow : course.matched.opened.now = e.now := by
    rw [h.matched_eq]
    rfl
  have hanswered : Frame.cookies.Rel course.cleared course.answered :=
    Stage.rel_answered_of_completes h fun a ha =>
      Frame.cookies_admitsAnswer (hkeeps _ (h.success_mem_parts ha))
  rw [hnow] at hhandled
  exact hhandled.trans_rel hanswered

end Configuration.Course.Completes

namespace Assembly

variable {a : Assembly} {history : List Call} {filter : StageFilter}

/-- The chain of a history expires the cookies of the handlers that were added: what stands behind
them expires none by its names. -/
theorem deletions_of_buildConfiguration {c : Configuration}
    (h : (initial.applyAll history).buildConfiguration = .ok c) (now : Int) :
    c.handlers.flatMap (Handler.deletions now) =
      (addedHandlers history).flatMap (Handler.deletions now) := by
  obtain ⟨appended, hhandlers, happended⟩ := exists_appended h
  have hnone : appended.flatMap (Handler.deletions now) = [] := by
    refine List.flatMap_eq_nil_iff.mpr fun handler hmem => ?_
    -- a token repository does expire a cookie, but one of its own
    cases happended handler hmem with
    | token hprotects hgiven => rfl
    | @services services _ hgiven hhandler hfit =>
        cases services with
        | only => cases hhandler
        | object => cases hhandler
        | withdrawn => cases hhandler
        | withLogout => cases hhandler; rfl
        | unawaited => cases hhandler; rfl
        | custom collaborator => cases hhandler; rfl
    | context => rfl
    | event hgiven => rfl
  rw [hhandlers, List.flatMap_append, hnone, List.append_nil]

/-- Every answer of a filter that was built expires all cookies that its script registered: among
the header lines that set cookies stands, in the order of registration and in the order of names
within a handler, one line for each name of each handler that expires cookies, at whatever depth it
stands and as often as the name was given, with the path and domain of the handler.  This holds of
every way to answer, as long as collaborators of the application keep the lines that they find. -/
theorem expires_of_process (hleft : a.LeftBy history) (hbuilt : a.build.result = .ok filter)
    (hkeeps : ∀ part ∈ filter.parts, part.KeepsCookies) {principal : Option Principal}
    {e e' : Exchange} {response : Response}
    (hprocess : Run.exec (filter.process principal) e = (.ok (some response), e')) :
    filter.bare.configuration.handlers.flatMap (Handler.deletions e.now) =
        (addedHandlers history).flatMap (Handler.deletions e.now) ∧
      ∃ lines : List String,
        (addedHandlers history).flatMap (Handler.deletions e.now) = lines.map .ok ∧
        lines.Sublist response.cookieLines := by
  obtain rfl := hleft.eq
  obtain ⟨c, hc, hs, rfl⟩ := exists_configuration_of_build hbuilt
  have hchain := deletions_of_buildConfiguration hc e.now
  rw [StageFilter.exec_process] at hprocess
  obtain ⟨course, path, hcourse, rfl, -⟩ := Stage.completes_of_exec_process hs hprocess
  have hnow : (filter.entered e).now = e.now := by
    cases filter <;> rfl
  obtain ⟨-, lines, hlines, hsublist⟩ := hcourse.expires hkeeps
  rw [hnow, hchain] at hlines
  exact ⟨hchain, lines, hlines, hsublist⟩

/-- A script that registers a cookie twice, the second time in a group of handlers and for a path of
its own, and then redirects. -/
def sampleExpiring : List Operation :=
  [.make (.logout [.ok (.setRequestMatcher (.atom .everything)),
      .ok (.deleteCookies [some "SESSION"])]),
    .make (.logout [.ok (.addHandler (.many [.one (.expireCookies ["SESSION"] (some "/app") none)])),
      .ok (.setSuccessUrl (some "/bye"))])]

/-- The header lines of the sample at the first moment of 1970. -/
def sampleLines : List String :=
  ["SESSION=\"\"; expires=Thu, 01 Jan 1970 00:00:00 GMT; Max-Age=0; Path=/; SameSite=lax",
    "SESSION=\"\"; expires=Thu, 01 Jan 1970 00:00:00 GMT; Max-Age=0; Path=/app; SameSite=lax"]

/-- The sample's cookie can be expired for any path that fits one byte per character. -/
theorem exec_sampleCookie (path : String) (hpath : Text.IsLatin1 path.toList)
    (principal : Option Principal) (e : Exchange) (hnow : e.now = 0) :
    ∃ line, Run.exec (Handler.Action.perform principal
        (.expireCookies ["SESSION"] (some path) none)) e =
      (.ok (), Handler.withExpired [line] e) := by
  have hline : ∃ line, Cookie.deletion "SESSION" (some path) none e.now = .ok line := by
    rw [hnow]
    exact ⟨_, rfl⟩
  have hsendable : Cookie.Sendable "SESSION" (some path) none :=
    ⟨by decide, by decide, by rintro text ⟨⟩; exact hpath, nofun⟩
  obtain ⟨line, hline⟩ := hline
  exact ⟨line, Run.exec_bind_of_ok
    (Run.exec_expireCookie_eq_ok_iff.mpr ⟨hsendable, line, hline, rfl⟩)⟩

theorem exists_answer_sampleExpiring {s : Stage}
    (hs : (initial.perform sampleExpiring).build.result = .ok (StageFilter.stage s)) :
    ∃ response e', Run.exec (s.process (some Stage.samplePrincipal)) Stage.sampleExchange =
      (.ok (some response), e') := by
  obtain ⟨line, hfirst⟩ := exec_sampleCookie "/" (by simp [Text.isLatin1])
    (some Stage.samplePrincipal) Stage.sampleExchange.opened rfl
  obtain ⟨line', hsecond⟩ := exec_sampleCookie "/app" (by simp [Text.isLatin1])
    (some Stage.samplePrincipal) (Handler.withExpired [line] Stage.sampleExchange.opened) rfl
  cases hs
  have hactions : ∃ e', Run.InOrder (Handler.Action.perform (some Stage.samplePrincipal)) ()
      [.expireCookies ["SESSION"] (some "/") none, .expireCookies ["SESSION"] (some "/app") none,
        .clearContext .on .on] Stage.sampleExchange.opened [[], [], []] e' :=
    ⟨_, .cons hfirst rfl (.cons hsecond rfl (.cons rfl rfl (.nil _)))⟩
  obtain ⟨e', hactions⟩ := hactions
  exact ⟨_, _, Stage.exec_process_eq_some_iff.mpr ⟨_, rfl,
    (Stage.exec_signOut_eq_ok_iff Stage.urlPath_sampleExchange).mpr
      ⟨_, _, Handler.exec_perform_eq_ok_iff.mpr ⟨_, hactions⟩, rfl, rfl, rfl⟩⟩⟩

theorem expires_of_process_sample :
    ∃ filter response e', (initial.perform sampleExpiring).build.result = .ok filter ∧
      Run.exec (filter.process (some Stage.samplePrincipal)) Stage.sampleExchange =
        (.ok (some response), e') ∧
      sampleLines.Sublist response.cookieLines := by
  have hbuilt : ∃ s, (initial.perform sampleExpiring).build.result =
      .ok (StageFilter.stage s) := ⟨_, rfl⟩
  obtain ⟨s, hs⟩ := hbuilt
  have hkeeps : ∀ part ∈ (StageFilter.stage s).parts, part.KeepsCookies := by
    have hparts : (StageFilter.stage s).parts = [.matcher .everything,
        .handler (.expireCookies ["SESSION"] (some "/") none),
        .handler (.expireCookies ["SESSION"] (some "/app") none),
        .handler (.clearContext .on .on), .success (.redirect "/bye")] := by
      cases hs
      rfl
    rw [hparts]
    simp [Part.KeepsCookies]
  obtain ⟨response, e', hanswer⟩ := exists_answer_sampleExpiring hs
  obtain ⟨-, lines, hlines, hsublist⟩ :=
    expires_of_process (.script .fresh sampleExpiring) hs hkeeps hanswer
  have hregistered : (addedHandlers (madeCalls sampleExpiring)).flatMap
      (Handler.deletions Stage.sampleExchange.now) = sampleLines.map .ok := rfl
  have heq : lines = sampleLines :=
    (List.map_inj_right fun _ _ => Except.ok.inj).mp (hlines.symm.trans hregistered)
  refine ⟨.stage s, response, e', hs, hanswer, ?_⟩
  rw [← heq]
  exact hsublist

end Assembly

end SignOut
