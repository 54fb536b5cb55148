import SignOut.Proofs.Parts

/-!
# Runs that serve

An exchange may give reasons of its own to stop: the target of the request cannot be read, the
moment of the clock has no date, the store refuses a command.  Where it gives none, it is left to
the parts of a stage whether they complete.  The library's own do, if the names of headers and
cookies that they were given can be sent, and those of the application do if they never raise.
What they leave is again an exchange without a reason to stop.
-/

namespace SignOut

/-! ## Runs that serve -/

/-- An exchange gives no reason of its own to stop: the target of the request can be read, the
moment has a date for cookies and a timestamp for events, and the store refuses nothing. -/
structure Exchange.Serving (e : Exchange) : Prop where
  readable : ∃ path, e.request.urlPath = .ok path
  dated : ∃ date, Calendar.cookieDate e.now = .ok date
  stamped : ∃ timestamp, Calendar.Timestamp.ofSeconds e.now = .ok timestamp
  willing : e.store.refuses = none

namespace Run

variable {α β ι : Type}

/-- A run completes from every exchange that gives no reason to stop, and leaves another one. -/
def Serves (action : Run α) : Prop :=
  ∀ e, e.Serving → ∃ a e', exec action e = (.ok a, e') ∧ e'.Serving

theorem serves_pure (a : α) : Serves (pure a) :=
  fun e h => ⟨a, e, rfl, h⟩

theorem serves_bind {action : Run α} {next : α → Run β} (haction : Serves action)
    (hnext : ∀ a, Serves (next a)) : Serves (action >>= next) := by
  intro e h
  obtain ⟨a, e₁, hfirst, h₁⟩ := haction e h
  obtain ⟨b, e₂, hsecond, h₂⟩ := hnext a e₁ h₁
  exact ⟨b, e₂, (exec_bind_of_ok hfirst).trans hsecond, h₂⟩

theorem serves_record (call : Call) : Serves (record call) :=
  fun _ h => ⟨(), _, rfl, h.readable, h.dated, h.stamped, h.willing⟩

theorem serves_log (entry : LogRecord) : Serves (log entry) :=
  fun _ h => ⟨(), _, rfl, h.readable, h.dated, h.stamped, h.willing⟩

theorem serves_modifyResponse (f : Response → Response) : Serves (modifyResponse f) :=
  fun _ h => ⟨(), _, rfl, h.readable, h.dated, h.stamped, h.willing⟩

theorem serves_request : Serves request :=
  fun e h => ⟨e.request, e, rfl, h⟩

theorem serves_urlPath : Serves urlPath := by
  intro e h
  obtain ⟨path, hpath⟩ := h.readable
  exact ⟨path, e, exec_urlPath_of_ok hpath, h⟩

theorem serves_timestamp : Serves timestamp := by
  intro e h
  obtain ⟨stamp, hstamp⟩ := h.stamped
  refine ⟨stamp, e, ?_, h⟩
  unfold timestamp
  rw [exec_bind_of_ok (exec_get e), hstamp]
  rfl

/-- A header can be looked up by every name that a header line can carry. -/
theorem exists_header? {name : String} (hname : Text.IsLatin1 (Text.lowerText name).toList)
    (r : Request) : ∃ value, r.header? name = .ok value :=
  ⟨_, Request.header?_of_isLatin1 hname r⟩

theorem exec_header?_of_ok {name : String} {value : Option String} {e : Exchange}
    (h : e.request.header? name = .ok value) : exec (header? name) e = (.ok value, e) := by
  unfold header?
  rw [exec_bind_of_ok (exec_request e), h]
  rfl

theorem exec_header?_of_not {name : String}
    (h : ¬ Text.IsLatin1 (Text.lowerText name).toList) (e : Exchange) :
    ∃ run, exec (header? name) e = (.error (.unencodable run), e) := by
  unfold header? Request.header?
  rw [exec_bind_of_ok (exec_request e)]
  dsimp only
  cases hrun : Text.unencodableRun? (Text.lowerText name).toList with
  | none => exact absurd ((Text.unencodableRun?_eq_none_iff _).mp hrun) h
  | some run => exact ⟨run, rfl⟩

theorem serves_header? {name : String} (hname : Text.IsLatin1 (Text.lowerText name).toList) :
    Serves (header? name) := by
  intro e h
  obtain ⟨value, hvalue⟩ := exists_header? hname e.request
  exact ⟨value, e, exec_header?_of_ok hvalue, h⟩

theorem exec_requireLatin1 {text : String} (h : Text.IsLatin1 text.toList) (e : Exchange) :
    exec (requireLatin1 text) e = (.ok (), e) := by
  unfold requireLatin1
  rw [(Text.unencodableRun?_eq_none_iff _).mpr h]
  rfl

theorem exec_requireLatin1_of_not {text : String} (h : ¬ Text.IsLatin1 text.toList) (e : Exchange) :
    ∃ run, exec (requireLatin1 text) e = (.error (.unencodable run), e) := by
  unfold requireLatin1
  cases hrun : Text.unencodableRun? text.toList with
  | none => exact absurd ((Text.unencodableRun?_eq_none_iff _).mp hrun) h
  | some run => exact ⟨run, rfl⟩

theorem serves_requireLatin1 {text : String} (h : Text.IsLatin1 text.toList) :
    Serves (requireLatin1 text) :=
  fun e he => ⟨(), e, exec_requireLatin1 h e, he⟩

theorem serves_setHeader (name : String) {value : String} (h : Text.IsLatin1 value.toList) :
    Serves (setHeader name value) :=
  serves_bind (serves_requireLatin1 h) fun _ => serves_modifyResponse _

theorem serves_addHeader {name value : String}
    (hname : Text.IsLatin1 (Text.lowerText name).toList) (hvalue : Text.IsLatin1 value.toList) :
    Serves (addHeader name value) :=
  serves_bind (serves_requireLatin1 hname) fun _ =>
    serves_bind (serves_requireLatin1 hvalue) fun _ => serves_modifyResponse _

theorem serves_deleteKey (key : String) : Serves (deleteKey key) := by
  intro e h
  have hwilling : e.store.refuses ≠ some .delete := by
    rw [h.willing]
    nofun
  have hdeleted := exec_deleteKey key e
  rw [if_neg hwilling] at hdeleted
  exact ⟨_, _, hdeleted, h.readable, h.dated, h.stamped, h.willing⟩

theorem serves_removeMember (set member : String) : Serves (removeMember set member) := by
  intro e h
  have hwilling : e.store.refuses ≠ some .remove := by
    rw [h.willing]
    nofun
  have hremoved := exec_removeMember set member e
  rw [if_neg hwilling] at hremoved
  exact ⟨_, _, hremoved, h.readable, h.dated, h.stamped, h.willing⟩

theorem serves_forM {act : ι → Run PUnit} {parts : List ι}
    (h : ∀ part ∈ parts, Serves (act part)) : Serves (parts.forM act) := by
  induction parts with
  | nil => exact serves_pure PUnit.unit
  | cons part rest ih =>
      exact serves_bind (h part List.mem_cons_self) fun _ =>
        ih fun other hmem => h other (List.mem_cons_of_mem _ hmem)

end Run

/-! ## Cookies -/

/-- A cookie that can be expired: its name is legal and not reserved, and the values of its
attributes fit one byte per character. -/
structure Cookie.Sendable (name : String) (path domain : Option String) : Prop where
  unreserved : isReserved name = false
  legal : isLegalName name = true
  path : ∀ text, path = some text → Text.IsLatin1 text.toList
  domain : ∀ text, domain = some text → Text.IsLatin1 text.toList

namespace Run

variable {name : String} {path domain : Option String}

/-- A cookie is expired iff it can be expired and the moment has a date. -/
theorem exec_expireCookie_eq_ok_iff {e e' : Exchange} :
    exec (expireCookie name path domain) e = (.ok (), e') ↔
      Cookie.Sendable name path domain ∧
        ∃ line, Cookie.deletion name path domain e.now = .ok line ∧
          e' = Handler.withExpired [line] e := by
  unfold expireCookie
  constructor
  · intro h
    split at h
    · cases h
    rename_i hreserved
    split at h
    · cases h
    rename_i hlegal
    rw [exec_bind_of_ok (exec_get e)] at h
    cases hline : Cookie.deletion name path domain e.now with
    | error fault =>
        rw [hline] at h
        cases h
    | ok line =>
        rw [hline] at h
        -- a line that does not fit one byte per character is refused as well
        by_cases hlatin : Text.IsLatin1 line.toList
        · obtain ⟨-, hpath, hdomain⟩ := (Cookie.isLatin1_deletion hline).mp hlatin
          rw [exec_bind_of_ok (exec_requireLatin1 hlatin e)] at h
          cases h
          exact ⟨⟨by simpa using hreserved, by simpa using hlegal, hpath, hdomain⟩, line, rfl, rfl⟩
        · obtain ⟨run, hrun⟩ := exec_requireLatin1_of_not hlatin e
          cases (exec_bind_of_error hrun).symm.trans h
  · rintro ⟨hsendable, line, hline, rfl⟩
    have hlatin : Text.IsLatin1 line.toList :=
      (Cookie.isLatin1_deletion hline).mpr
        ⟨Cookie.isLatin1_of_isLegalName hsendable.legal, hsendable.path, hsendable.domain⟩
    rw [if_neg (by simp [hsendable.unreserved]), if_neg (by simp [hsendable.legal]),
      exec_bind_of_ok (exec_get e), hline]
    exact exec_bind_of_ok (exec_requireLatin1 hlatin e)

theorem serves_expireCookie (h : Cookie.Sendable name path domain) :
    Serves (expireCookie name path domain) := by
  intro e he
  obtain ⟨date, hdate⟩ := he.dated
  have hline : ∃ line, Cookie.deletion name path domain e.now = .ok line := by
    unfold Cookie.deletion
    rw [hdate]
    exact ⟨_, rfl⟩
  obtain ⟨line, hline⟩ := hline
  exact ⟨(), _, exec_expireCookie_eq_ok_iff.mpr ⟨h, line, hline, rfl⟩, he.readable, he.dated,
    he.stamped, he.willing⟩

end Run

/-! ## Parts that oblige -/

/-- A collaborator of the application never raises, and it does not turn a store that refuses
nothing into one that does. -/
def Collaborator.Obliges (c : Collaborator) : Prop :=
  ∀ principal e, (c.act principal e).outcome = .ok () ∧
    (e.store.refuses = none → (c.act principal e).store.refuses = none)

/-- A single matcher is one of the library, or one of the application that never raises. -/
def Matcher.Atom.Obliges : Matcher.Atom → Prop
  | .probe _ answer => ∃ result, answer = .ok result
  | .custom observer => ∀ r, ∃ result, observer.answer r = .ok result
  | .foreign _ => False
  | _ => True

/-- A single handler is one of the library or of the application, and the collaborators that it
stands for never raise. -/
def Handler.Action.Obliges : Handler.Action → Prop
  | .clearToken repository =>
      ∀ name, repository.cookie = some name → Cookie.Sendable name (some "/") none
  | .publishEvent publisher => publisher.failure = none
  | .recording handler => ∀ line ∈ handler.headers,
      Text.IsLatin1 (Text.lowerText line.1).toList ∧ Text.IsLatin1 line.2.toList
  | .custom collaborator => collaborator.Obliges
  | .failing _ => False
  | .unawaited _ => False
  | .foreign _ => False
  | _ => True

/-- A single success handler is one of the library, or one of the application that never raises. -/
def Success.Answer.Obliges : Success.Answer → Prop
  | .custom collaborator => collaborator.Obliges
  | .failing _ => False
  | .unawaited _ => False
  | .foreign _ => False
  | _ => True

/-- A part of a stage has the operation for which the stage comes to it, and raises nothing of its
own: what is left to stop it are the values that it was given to send. -/
def Part.Obliges : Part → Prop
  | .matcher atom => atom.Obliges
  | .handler action => action.Obliges
  | .success answer => answer.Obliges

theorem Collaborator.serves_engage {c : Collaborator} (h : c.Obliges)
    (principal : Option Principal) : Run.Serves (c.engage principal) := by
  intro e he
  obtain ⟨houtcome, hstore⟩ := h principal e
  refine ⟨(), (c.act principal e).applyTo e, ?_, he.readable, he.dated, he.stamped,
    hstore he.willing⟩
  rw [Collaborator.exec_engage, houtcome]

theorem Request.isLatin1_accept : Text.IsLatin1 (Text.lowerText "accept").toList := by
  have hlower : Text.lowerText "accept" = "accept" := by decide
  rw [hlower]
  simp [Text.isLatin1]

theorem Request.isLatin1_scriptHeader :
    Text.IsLatin1 (Text.lowerText Success.scriptHeader).toList := by
  have hlower : Text.lowerText Success.scriptHeader = "x-requested-with" := by decide
  rw [hlower]
  simp [Text.isLatin1]

theorem Matcher.Atom.serves_ask {a : Matcher.Atom} (h : a.Obliges)
    (hsend : ∀ name value, a = .header name value → Text.IsLatin1 (Text.lowerText name).toList) :
    Run.Serves a.ask := by
  cases a with
  | logout target methods =>
      exact Run.serves_bind Run.serves_urlPath fun _ =>
        Run.serves_bind Run.serves_request fun _ => Run.serves_pure _
  | path target method =>
      cases method with
      | none => exact Run.serves_bind Run.serves_urlPath fun _ => Run.serves_pure _
      | some method =>
          refine Run.serves_bind Run.serves_request fun r => ?_
          split
          · exact Run.serves_bind Run.serves_urlPath fun _ => Run.serves_pure _
          · exact Run.serves_pure _
  | everything => exact Run.serves_pure true
  | header name value =>
      refine Run.serves_bind (Run.serves_header? (hsend name value rfl)) fun actual => ?_
      split
      · exact Run.serves_pure _
      · exact Run.serves_pure _
      · exact Run.serves_pure _
  | media matcher =>
      exact Run.serves_bind (Run.serves_header? Request.isLatin1_accept) fun _ => Run.serves_pure _
  | probe name answer =>
      obtain ⟨result, rfl⟩ := h
      exact Run.serves_bind (Run.serves_record _) fun _ => Run.serves_pure _
  | custom observer =>
      refine Run.serves_bind Run.serves_request fun r => ?_
      obtain ⟨result, hresult⟩ := h r
      refine Run.serves_bind (Run.serves_forM fun call _ => Run.serves_record call) fun _ => ?_
      rw [hresult]
      exact Run.serves_pure _
  | foreign value => exact h.elim

namespace Handler

theorem serves_removeSession (s : SessionRemoval) (principal : Option Principal) :
    Run.Serves (removeSession s principal) := by
  have hindex : ∀ id, Run.Serves (removeFromIndex s principal id) := by
    intro id
    unfold removeFromIndex
    split
    · exact Run.serves_pure _
    · exact Run.serves_removeMember _ _
  unfold removeSession
  refine Run.serves_bind Run.serves_request fun r => ?_
  split
  · exact Run.serves_pure _
  split
  · exact Run.serves_pure _
  exact Run.serves_bind (Run.serves_deleteKey _) fun _ =>
    Run.serves_bind (hindex _) fun _ => Run.serves_log _

theorem serves_clearToken {repository : TokenRepository}
    (h : ∀ name, repository.cookie = some name → Cookie.Sendable name (some "/") none) :
    Run.Serves (clearToken repository) := by
  unfold clearToken
  refine Run.serves_bind Run.serves_urlPath fun path =>
    Run.serves_bind (Run.serves_record _) fun _ => ?_
  split
  · exact Run.serves_pure _
  · rename_i name hname
    exact Run.serves_expireCookie (h name hname)

theorem serves_publishEvent {publisher : Publisher} (h : publisher.failure = none)
    (principal : Option Principal) : Run.Serves (publishEvent publisher principal) := by
  have hevent : Run.Serves (newEvent principal) :=
    Run.serves_bind Run.serves_urlPath fun _ => Run.serves_bind Run.serves_timestamp fun _ =>
      Run.serves_bind Run.serves_request fun _ => Run.serves_pure _
  unfold publishEvent
  refine Run.serves_bind hevent fun _ => Run.serves_bind (Run.serves_record _) fun _ => ?_
  rw [h]
  exact Run.serves_pure _

theorem serves_addHeaders {lines : List HeaderLine} (h : ∀ line ∈ lines,
    Text.IsLatin1 (Text.lowerText line.1).toList ∧ Text.IsLatin1 line.2.toList) :
    Run.Serves (addHeaders lines) := by
  induction lines with
  | nil => exact Run.serves_pure ()
  | cons line rest ih =>
      obtain ⟨hname, hvalue⟩ := h line List.mem_cons_self
      exact Run.serves_bind (Run.serves_addHeader hname hvalue) fun _ =>
        ih fun other hmem => h other (List.mem_cons_of_mem _ hmem)

theorem serves_runRecording {handler : RecordingHandler} (h : ∀ line ∈ handler.headers,
    Text.IsLatin1 (Text.lowerText line.1).toList ∧ Text.IsLatin1 line.2.toList)
    (principal : Option Principal) : Run.Serves (runRecording handler principal) := by
  have hsession : Run.Serves (recordSession handler) := by
    unfold recordSession
    split
    · exact Run.serves_pure _
    · exact Run.serves_bind Run.serves_request fun _ => Run.serves_record _
  unfold runRecording
  exact Run.serves_bind (Run.serves_record _) fun _ => Run.serves_bind hsession fun _ =>
    Run.serves_bind (Run.serves_modifyResponse _) fun _ =>
      Run.serves_bind (serves_addHeaders h) fun _ => Run.serves_modifyResponse _

/-- Clearing the session and the user leaves the target of the request readable. -/
theorem urlPath_clearedRequest (session authentication : Bool) (r : Request) :
    (clearedRequest session authentication r).urlPath = r.urlPath := by
  cases session <;> cases authentication <;> rfl

theorem Action.serves_perform {a : Action} (h : a.Obliges)
    (hsend : ∀ names path domain, a = .expireCookies names path domain →
      ∀ name ∈ names, Cookie.Sendable name path domain) (principal : Option Principal) :
    Run.Serves (a.perform principal) := by
  cases a with
  | expireCookies names path domain =>
      show Run.Serves (Handler.expireCookies path domain names)
      rw [expireCookies_eq_forM]
      exact Run.serves_forM fun name hmem =>
        Run.serves_expireCookie (hsend names path domain rfl name hmem)
  | clearContext session authentication =>
      intro e he
      have hreadable : ∃ path, (clearedRequest session.isOn authentication.isOn e.request).urlPath =
          .ok path := by
        rw [urlPath_clearedRequest]
        exact he.readable
      exact ⟨(), _, rfl, hreadable, he.dated, he.stamped, he.willing⟩
  | removeSession removal => exact serves_removeSession removal principal
  | clearToken repository => exact serves_clearToken h
  | publishEvent publisher => exact serves_publishEvent h principal
  | recording handler => exact serves_runRecording h principal
  | forgetUser => exact Run.serves_record _
  | custom collaborator => exact Collaborator.serves_engage h principal
  | failing message => exact h.elim
  | unawaited typeName => exact h.elim
  | foreign value => exact h.elim

end Handler

/-! ## Exchanges that go on serving -/

namespace Frame

/-- The frame of exchanges that give no reason to stop: none comes up. -/
def serving : Frame where
  Rel e e' := e.Serving → e'.Serving
  refl _ h := h
  trans h h' hserving := h' (h hserving)
  recorded _ _ h := ⟨h.readable, h.dated, h.stamped, h.willing⟩

instance : serving.AllowsWork where
  answered _ _ h := ⟨h.readable, h.dated, h.stamped, h.willing⟩
  deleted _ _ h := ⟨h.readable, h.dated, h.stamped, h.willing⟩
  removed _ _ _ h := ⟨h.readable, h.dated, h.stamped, h.willing⟩
  logged _ _ _ h := ⟨h.readable, h.dated, h.stamped, h.willing⟩

theorem serving_admits {a : Handler.Action} (h : a.Obliges) : serving.Admits a := by
  refine admits_of_deeds ?_ ?_
  · intro session authentication _ e he
    refine ⟨?_, he.dated, he.stamped, he.willing⟩
    obtain ⟨path, hpath⟩ := he.readable
    exact ⟨path, (Handler.urlPath_clearedRequest _ _ _).trans hpath⟩
  · rintro collaborator rfl principal e he
    exact ⟨he.readable, he.dated, he.stamped, (h principal e).2 he.willing⟩

end Frame

/-- What happens to an exchange on its way into a filter gives no reason to stop. -/
theorem Exchange.Serving.entered {e : Exchange} (h : e.Serving) (filter : StageFilter) :
    (filter.entered e).Serving := by
  cases filter with
  | stage s => exact h
  | decorated s => exact ⟨h.readable, h.dated, h.stamped, h.willing⟩

end SignOut
