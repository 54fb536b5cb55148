import Mathlib.Data.List.Basic
import SignOut.Proofs.Discretion
import SignOut.Proofs.Passage
import SignOut.Proofs.SettingsScript
import SignOut.Proofs.Timestamps
import SignOut.Proofs.WrittenAnswer

/-!
# The event of a sign-out

An assembly with a publisher has the event of the sign-out published behind everything else in the
chain, when the session and the user that it tells of may be gone already.  It still tells of who
was signed in when the request arrived, because the principal is found before the chain starts; and
no handler can change the target, the method or the client of the request.  So there is one event if
the request is selected and all other handlers complete, whatever happens behind that, and otherwise
there is none.  An event carries a timestamp, and the clock of the machine shows no moment that has
none.
-/

namespace SignOut

/-! ## What a gate leaves -/

namespace Gate

variable {gate : Gate} {principal : Option Principal} {e e₁ e₂ : Exchange}

/-- The exchange in which a gate is done with a request: it hands the request on there, or it has
kept the request and ended there. -/
def Leaves (gate : Gate) (e e₁ : Exchange) : Prop :=
  gate.PassesOn e e₁ ∨ ∃ result, gate.Keeps e result e₁

/-- A gate is done with a request in one exchange only. -/
theorem Leaves.unique (h : gate.Leaves e e₁) (h' : gate.Leaves e e₂) : e₁ = e₂ := by
  rcases h with hpasses | ⟨result, hkeeps⟩
  · rcases h' with hpasses' | ⟨result', hkeeps'⟩
    · exact hpasses.unique hpasses'
    · exact absurd hkeeps' hpasses.not_keeps
  · rcases h' with hpasses' | ⟨result', hkeeps'⟩
    · exact absurd hkeeps hpasses'.not_keeps
    · exact congrArg Prod.snd ((hkeeps application).symm.trans (hkeeps' application))

/-- Once it is known who asks, a gate leaves what its filter leaves. -/
theorem leaves_iff (hfound : gate.resolver.found e.request = .ok principal) :
    gate.Leaves e e₁ ↔ e₁ = (Run.exec (gate.filter.process principal) e).2 := by
  have hleaves : gate.Leaves e (Run.exec (gate.filter.process principal) e).2 := by
    rcases hprocess : Run.exec (gate.filter.process principal) e with ⟨result, e₂⟩
    cases result with
    | error fault => exact Or.inr ⟨.error fault, keeps_of_exec_process hfound hprocess⟩
    | ok answer =>
        cases answer with
        | some response => exact Or.inr ⟨.ok response, keeps_of_exec_process hfound hprocess⟩
        | none => exact Or.inl (passesOn_of_exec_process hfound hprocess)
  constructor
  · intro h
    exact h.unique hleaves
  · rintro rfl
    exact hleaves

end Gate

/-! ## Publishing -/

namespace Event

/-- The event of signing out a principal through a request, a path and a moment. -/
def signingOut (principal : Option Principal) (r : Request) (path : String)
    (timestamp : Calendar.Timestamp) : Event :=
  { principal, path := some path, method := some r.method, clientHost := r.client, timestamp
    source := some defaultSource, metadata := .object [] }

/-- The member of an event under a name, as the event is written. -/
def member? (event : Event) (name : String) : Option Json :=
  match event.toJson with
  | .object members => Keyed.get? name members
  | _ => none

/-- An event shows whoever was signed in to a request, by name or as nothing, and the target, the
method and the client of the request. -/
structure Shows (event : Event) (r : Request) : Prop where
  principal : event.principal = r.principal? ∧ event.member? "principal" =
    some (match r.principal? with | none => .null | some principal => .string principal.label)
  path : ∃ path, r.urlPath = .ok path ∧ event.member? "path" = some (.string path)
  method : event.member? "method" = some (.string r.method)
  client : event.member? "client_host" =
    some (match r.client with | none => .null | some host => .string host)

/-- The event of signing out whoever is signed in to a request shows just that. -/
theorem shows_signingOut {r : Request} {path : String} (hpath : r.urlPath = .ok path)
    (timestamp : Calendar.Timestamp) : (signingOut r.principal? r path timestamp).Shows r := by
  refine ⟨⟨rfl, ?_⟩, ⟨path, hpath, rfl⟩, rfl, ?_⟩
  · show some (Json.ofText? (r.principal?.map Principal.label)) = _
    cases r.principal? with
    | none => rfl
    | some principal => rfl
  · show some (Json.ofText? r.client) = _
    cases r.client with
    | none => rfl
    | some host => rfl

/-- Of a request, an event shows what lies outside the session and the user. -/
theorem signingOut_eq_of_outline {r r' : Request} (h : r'.outline = r.outline)
    (principal : Option Principal) (path : String) (timestamp : Calendar.Timestamp) :
    signingOut principal r' path timestamp = signingOut principal r path timestamp := by
  unfold signingOut
  rw [Request.method_eq_of_outline h, Request.client_eq_of_outline h]

end Event

/-- What a publisher answers to an event. -/
def Publisher.answer (publisher : Publisher) : Except Fault Unit :=
  match publisher.failure with
  | none => .ok ()
  | some message => .error (.raised message)

namespace Handler

variable {publisher : Publisher} {principal : Option Principal} {e : Exchange} {path : String}

/-- At a moment with a timestamp the publisher is handed the event, whether it takes it or fails. -/
theorem exec_publishEvent (hpath : e.request.urlPath = .ok path) {timestamp : Calendar.Timestamp}
    (htime : Calendar.Timestamp.ofSeconds e.now = .ok timestamp) :
    Run.exec (publishEvent publisher principal) e =
      (publisher.answer, { e with
        calls := e.calls ++ [.published (.signingOut principal e.request path timestamp)] }) := by
  have hstamped : Run.exec Run.timestamp e = (.ok timestamp, e) := by
    refine (Run.exec_bind_of_ok (Run.exec_get e)).trans ?_
    rw [htime]
    rfl
  have hevent : Run.exec (newEvent principal) e =
      (.ok (.signingOut principal e.request path timestamp), e) :=
    (Run.exec_bind_of_ok (Run.exec_urlPath_of_ok hpath)).trans
      ((Run.exec_bind_of_ok hstamped).trans (Run.exec_bind_of_ok (Run.exec_request e)))
  unfold publishEvent Publisher.answer
  rw [Run.exec_bind_of_ok hevent, Run.exec_bind_of_ok (Run.exec_record _ e)]
  cases publisher.failure with
  | none => rfl
  | some message => rfl

/-- The last of several handlers runs behind all the others. -/
theorem perform_concat (principal : Option Principal) (handlers : List Handler) (last : Handler) :
    perform principal (.many (handlers ++ [last])) = (do
      perform principal (.many handlers)
      perform principal last) := by
  rw [perform_many, perform_many]
  refine List.forM_append.trans (congrArg _ (funext fun _ => ?_))
  show (do perform principal last; pure PUnit.unit) = _
  exact bind_pure_unit

/-- Behind a clearing, the request is one that was cleared. -/
theorem exists_clearedRequest_of_handled {handlers : List Handler} {session authentication : Switch}
    {blocks : List (List Call)} {e₂ : Exchange} (h : Handled principal
      (handlers ++ [.one (.clearContext session authentication)]) e blocks e₂) :
    ∃ r, e₂.request = clearedRequest session.isOn authentication.isOn r := by
  obtain ⟨_, e₁, _, _, hlast⟩ := h.exists_of_append
  cases hlast with
  | cons hclear hcalls hrest =>
      cases hrest
      cases hclear
      exact ⟨e₁.request, rfl⟩

variable {r r' : Request} {session authentication : Switch}

/-- A request whose session was invalidated has an empty session or none. -/
theorem session_of_clearedRequest (h : r' = clearedRequest session.isOn authentication.isOn r)
    (hon : session.isOn = true) :
    r'.session = none ∨ r'.session = some [] := by
  rw [h, session_clearedRequest, if_pos hon]
  cases r.session with
  | none => exact Or.inl rfl
  | some entries => exact Or.inr rfl

/-- A request whose user was cleared has nobody signed in, wherever that could be read. -/
theorem user_of_clearedRequest (h : r' = clearedRequest session.isOn authentication.isOn r)
    (hon : authentication.isOn = true) :
    r'.userContext = some none ∧ (r'.user = none ∨ r'.user = some (some .anonymous)) ∧
      r'.principal? = none := by
  rw [hon] at h
  rw [h, userContext_clearedRequest, user_clearedRequest, principal?_clearedRequest]
  refine ⟨rfl, ?_, rfl⟩
  cases r.user with
  | none => exact Or.inl rfl
  | some user => exact Or.inr rfl

end Handler

/-- The frame of the clock: no part touches it. -/
def Frame.clock : Frame where
  Rel e e' := e'.now = e.now
  refl _ := rfl
  trans h h' := h'.trans h
  recorded _ _ := rfl

instance : Frame.clock.AllowsWork where
  answered _ _ := rfl
  deleted _ _ := rfl
  removed _ _ _ := rfl
  logged _ _ _ := rfl

theorem Frame.clock_admits (a : Handler.Action) : Frame.clock.Admits a :=
  admits_of_deeds (fun _ _ _ _ => rfl) fun _ _ _ _ => rfl

/-! ## Chains that publish at their end -/

namespace Configuration

variable {c : Configuration} {principal : Option Principal} {others : List Handler}
  {publisher : Publisher} {e e₁ e₂ : Exchange} {path : String}

/-- A request is selected and its target can be read, and handlers that are run on it one after
another all complete. -/
def Handles (c : Configuration) (principal : Option Principal) (handlers : List Handler)
    (e : Exchange) (path : String) (e₂ : Exchange) : Prop :=
  ∃ e₁ blocks, c.Recognises e path e₁ ∧
    Handler.Handled principal handlers e₁.opened blocks e₂

/-- A frame that admits the handlers holds up to where they completed. -/
theorem Handles.rel {F : Frame} [F.AllowsWork] (h : c.Handles principal others e path e₂)
    (hadmits : ∀ a, F.Admits a) : F.Rel e e₂ := by
  obtain ⟨e₁, blocks, hrecognised, hhandled⟩ := h
  have hasked : F.Rel e e₁ := (F.holds_ask c.matcher).rel hrecognised.selected
  have hopened : F.Rel e₁ e₁.opened := Frame.AllowsWork.answered e₁ Response.initial
  exact F.trans hasked (F.trans hopened
    (hhandled.rel fun handler _ => Frame.holds_perform (fun a _ => hadmits a) principal))

theorem discreet_matcher (hdiscreet : ∀ part ∈ c.parts, part.Discreet) : c.matcher.ask.Discreet :=
  Matcher.discreet_ask fun part hpart => hdiscreet part (mem_parts.mpr (Or.inl hpart))

theorem discreet_success (hdiscreet : ∀ part ∈ c.parts, part.Discreet)
    (principal : Option Principal) :
    (Success.give principal (.routed c.routes c.fallback)).Discreet :=
  Success.discreet_give fun part hpart => hdiscreet part (mem_parts.mpr (Or.inr (Or.inr hpart)))

/-- The chain of a configuration ends with the publication of the event, and no handler ahead of it
is one that publishes. -/
structure PublishesLast (c : Configuration) (others : List Handler) (publisher : Publisher) :
    Prop where
  chain : c.handlers = others ++ [.one (.publishEvent publisher)]
  silent : ∀ handler ∈ others, ∀ other, .publishEvent other ∉ handler.actions

namespace PublishesLast

variable (h : c.PublishesLast others publisher)
include h

/-- The single handlers of the chain are those of the others and, behind them, the publication. -/
theorem actions_eq :
    Chain.actionsAll c.handlers = Chain.actionsAll others ++ [.publishEvent publisher] := by
  rw [h.chain, Chain.actionsAll_append]
  rfl

theorem not_mem_actions (other : Publisher) : .publishEvent other ∉ Chain.actionsAll others := by
  intro hother
  obtain ⟨handler, hhandler, hmem⟩ := Chain.mem_actionsAll.mp hother
  exact h.silent handler hhandler other hmem

/-- A stage comes to a publication once all other handlers completed, in the exchange that they
leave, and nowhere else. -/
theorem meets_publication_iff {other : Publisher} :
    c.Meets principal e (.handler (.publishEvent other)) e₂ ↔
      other = publisher ∧ ∃ path, c.Handles principal others e path e₂ := by
  constructor
  · intro hmeets
    cases hmeets with
    | @handler before after _ path blocks e₁ _ hrecognised hsplit hbefore =>
        obtain ⟨rfl, hsame, -⟩ := (List.append_cons_inj_of_notMem (h.not_mem_actions other)
          List.not_mem_nil).mp (h.actions_eq.symm.trans hsplit)
        cases hsame
        have hperform : Run.exec (Handler.perform principal (.many others)) e₁.opened =
            (.ok (), e₂) := Handler.exec_perform_eq_ok_iff.mpr ⟨_, hbefore⟩
        obtain ⟨blocks, hhandled⟩ := Handler.exec_many_eq_ok_iff.mp hperform
        exact ⟨rfl, path, e₁, blocks, hrecognised, hhandled⟩
    | success hrecognised hhandlers hsuccess =>
        -- behind the chain there are only matchers and answers
        rcases Success.eq_of_mem_toParts hsuccess.mem_parts with ⟨atom, hpart⟩ | ⟨answer, hpart⟩
        · cases hpart
        · cases hpart
  · rintro ⟨rfl, path, e₁, blocks, hrecognised, hhandled⟩
    obtain ⟨blocks, hbefore⟩ :=
      Handler.exec_perform_eq_ok_iff.mp (Handler.exec_many_eq_ok_iff.mpr ⟨blocks, hhandled⟩)
    exact .handler hrecognised h.actions_eq hbefore

theorem discreet_others (hdiscreet : ∀ part ∈ c.parts, part.Discreet)
    (principal : Option Principal) : (Handler.perform principal (.many others)).Discreet := by
  refine Handler.discreet_perform ?_ h.not_mem_actions
  intro part hpart
  refine hdiscreet part (mem_parts_of_mem_chain ?_)
  obtain ⟨action, haction, rfl⟩ := Handler.mem_toParts.mp hpart
  refine Handler.mem_toParts.mpr ⟨action, ?_, rfl⟩
  show action ∈ Chain.actionsAll c.handlers
  rw [h.actions_eq]
  exact List.mem_append_left _ haction

/-- Once the others completed, the chain ends as the publication does. -/
theorem exec_chain_of_handled {blocks : List (List Call)}
    (hhandled : Handler.Handled principal others e blocks e₁) :
    Run.exec (Handler.perform principal (.many c.handlers)) e =
      Run.exec (Handler.publishEvent publisher principal) e₁ := by
  rw [h.chain, Handler.perform_concat]
  exact Run.exec_bind_of_ok (Handler.exec_many_eq_ok_iff.mpr ⟨blocks, hhandled⟩)

/-- Where one of the others stops, the chain stops. -/
theorem exec_chain_of_stopped {fault : Fault}
    (hstop : Run.exec (Handler.perform principal (.many others)) e = (.error fault, e₁)) :
    Run.exec (Handler.perform principal (.many c.handlers)) e = (.error fault, e₁) := by
  rw [h.chain, Handler.perform_concat]
  exact Run.exec_bind_of_error hstop

end PublishesLast

end Configuration

namespace Stage

variable {c : Configuration} {s : Stage} {principal : Option Principal} {others : List Handler}
  {publisher : Publisher} {e e₁ e₂ e₃ : Exchange} {path : String} {result : Except Fault Unit}

/-- Behind the chain, a stage records the calls of the success handler, if it comes to it, and no
others. -/
theorem exists_calls_eq_behind_chain (hs : Stage.ofConfiguration c = .ok s)
    (hrecognised : c.Recognises e path e₁)
    (hchain : Run.exec (Handler.perform principal (.many c.handlers)) e₁.opened = (result, e₃)) :
    ∃ e₄, (Run.exec (s.process principal) e).2.calls = e₄.calls ∧ (e₄ = e₃ ∨
      ∃ given, Run.exec (Success.give principal (.routed c.routes c.fallback)) e₃ =
        (given, e₄)) := by
  obtain rfl := Stage.eq_of_ofConfiguration hs
  have hread : e₁.request.urlPath = .ok path := by
    rw [urlPath_eq_of_exec_ask hrecognised.selected, hrecognised.readable]
  rcases hprocess : Run.exec (Stage.process ⟨c, .many c.handlers,
    .routed c.routes c.fallback⟩ principal) e with ⟨processed, e'⟩
  cases processed with
  | error fault =>
      rcases exec_process_eq_error_iff.mp hprocess with hmatcher | ⟨e₁', hselected, hsignOut⟩
      · cases hmatcher.symm.trans hrecognised.selected
      cases hselected.symm.trans hrecognised.selected
      rcases (exec_signOut_eq_error_iff hread).mp hsignOut with hstop | ⟨e₂', hdone, hstop⟩
      · cases hstop.symm.trans hchain
        exact ⟨_, rfl, Or.inl rfl⟩
      · cases hdone.symm.trans hchain
        exact ⟨_, rfl, Or.inr ⟨_, hstop⟩⟩
  | ok answer =>
      cases answer with
      | none =>
          have hdeclined := exec_process_eq_none_iff.mp hprocess
          cases hdeclined.symm.trans hrecognised.selected
      | some response =>
          obtain ⟨e₁', hselected, hsignOut⟩ := exec_process_eq_some_iff.mp hprocess
          cases hselected.symm.trans hrecognised.selected
          obtain ⟨e₂', e₄, hdone, hgive, -, rfl⟩ := (exec_signOut_eq_ok_iff hread).mp hsignOut
          cases hdone.symm.trans hchain
          exact ⟨e₄, rfl, Or.inr ⟨_, hgive⟩⟩

/-- What was recorded in the chain stays. -/
theorem calls_isPrefix_behind_chain (hs : Stage.ofConfiguration c = .ok s)
    (hrecognised : c.Recognises e path e₁)
    (hchain : Run.exec (Handler.perform principal (.many c.handlers)) e₁.opened = (result, e₃)) :
    e₃.calls <+: (Run.exec (s.process principal) e).2.calls := by
  obtain ⟨e₄, hcalls, hended⟩ := exists_calls_eq_behind_chain hs hrecognised hchain
  rw [hcalls]
  rcases hended with rfl | ⟨given, hgive⟩
  · exact List.prefix_refl _
  · exact ((Frame.onward_holds_give _ principal).rel hgive).1

/-- Behind the chain, discreet parts publish nothing. -/
theorem events_behind_chain (hs : Stage.ofConfiguration c = .ok s)
    (hdiscreet : ∀ part ∈ c.parts, part.Discreet) (hrecognised : c.Recognises e path e₁)
    (hchain : Run.exec (Handler.perform principal (.many c.handlers)) e₁.opened = (result, e₃)) :
    (Run.exec (s.process principal) e).2.events = e₃.events := by
  obtain ⟨e₄, hcalls, hended⟩ := exists_calls_eq_behind_chain hs hrecognised hchain
  have hevents : (Run.exec (s.process principal) e).2.events = e₄.events :=
    congrArg (List.filterMap Call.event?) hcalls
  rw [hevents]
  rcases hended with rfl | ⟨given, hgive⟩
  · rfl
  · exact (c.discreet_success hdiscreet principal).events_eq hgive

/-- Handlers that complete leave the target and the clock as they were. -/
theorem publishable_of_handles (h : c.Handles principal others e path e₂) :
    e₂.request.urlPath = .ok path ∧ e₂.now = e.now ∧ e₂.request.outline = e.request.outline := by
  have houtline : e₂.request.outline = e.request.outline :=
    h.rel (F := Frame.keeping Request.outline) Frame.keeping_outline_admits
  have hnow : e₂.now = e.now := h.rel (F := Frame.clock) Frame.clock_admits
  obtain ⟨e₁, blocks, hrecognised, hhandled⟩ := h
  refine ⟨?_, hnow, houtline⟩
  rw [Request.urlPath_eq_of_outline houtline, hrecognised.readable]

/-- Where the others are run on a recognised request, discreet parts leave the events as they
were. -/
theorem events_of_others (hlast : c.PublishesLast others publisher)
    (hdiscreet : ∀ part ∈ c.parts, part.Discreet) (hrecognised : c.Recognises e path e₁)
    (hothers : Run.exec (Handler.perform principal (.many others)) e₁.opened = (result, e₂)) :
    e₂.events = e.events := by
  have hasked : e₁.events = e.events :=
    (c.discreet_matcher hdiscreet).events_eq hrecognised.selected
  have hhandlers : e₂.events = e₁.opened.events :=
    (hlast.discreet_others hdiscreet principal).events_eq hothers
  exact hhandlers.trans hasked

/-- Once all other handlers completed, the event is published at a moment with a timestamp, behind
all that was recorded by then.  Among discreet parts it is the only one. -/
theorem published_of_handles (hs : Stage.ofConfiguration c = .ok s)
    (hlast : c.PublishesLast others publisher) (h : c.Handles principal others e path e₂)
    {timestamp : Calendar.Timestamp}
    (htime : Calendar.Timestamp.ofSeconds e.now = .ok timestamp) :
    e₂.calls ++ [.published (.signingOut principal e.request path timestamp)] <+:
        (Run.exec (s.process principal) e).2.calls ∧
      ((∀ part ∈ c.parts, part.Discreet) → (Run.exec (s.process principal) e).2.events =
        e.events ++ [.signingOut principal e.request path timestamp]) := by
  obtain ⟨hread, hnow, houtline⟩ := publishable_of_handles h
  obtain ⟨e₁, blocks, hrecognised, hhandled⟩ := h
  rw [← hnow] at htime
  have hpublish : Run.exec (Handler.publishEvent publisher principal) e₂ = (publisher.answer,
      { e₂ with calls :=
          e₂.calls ++ [.published (.signingOut principal e.request path timestamp)] }) := by
    rw [← Event.signingOut_eq_of_outline houtline]
    exact Handler.exec_publishEvent hread htime
  have hchain := (hlast.exec_chain_of_handled hhandled).trans hpublish
  refine ⟨calls_isPrefix_behind_chain hs hrecognised hchain, fun hdiscreet => ?_⟩
  have hothers := Handler.exec_many_eq_ok_iff.mpr ⟨blocks, hhandled⟩
  rw [events_behind_chain hs hdiscreet hrecognised hchain, Exchange.events_eq_append rfl,
    events_of_others hlast hdiscreet hrecognised hothers]
  rfl

/-- A request that is not selected, or whose target cannot be read, leaves no event of discreet
parts. -/
theorem events_of_unrecognised (hs : Stage.ofConfiguration c = .ok s)
    (hdiscreet : ∀ part ∈ c.parts, part.Discreet) (h : ∀ path e₁, ¬ c.Recognises e path e₁) :
    (Run.exec (s.process principal) e).2.events = e.events := by
  have hmatcher := c.discreet_matcher hdiscreet
  rcases hprocess : Run.exec (s.process principal) e with ⟨processed, e'⟩
  cases processed with
  | error fault =>
      rcases raises_of_exec_process hs hprocess with hraises | ⟨run, -, -, hselected⟩
      · cases hraises with
        | matcher hstopped => exact hmatcher.events_eq hstopped
        | handler hrecognised => exact absurd hrecognised (h _ _)
        | route hrecognised => exact absurd hrecognised (h _ _)
        | success hrecognised => exact absurd hrecognised (h _ _)
      · exact hmatcher.events_eq hselected
  | ok answer =>
      cases answer with
      | none =>
          obtain rfl := Stage.eq_of_ofConfiguration hs
          exact hmatcher.events_eq (exec_process_eq_none_iff.mp hprocess)
      | some response =>
          obtain ⟨course, path, hcourse, -⟩ := completes_of_exec_process hs hprocess
          exact absurd hcourse.recognised (h _ _)

/-- A recognised request leaves no event of discreet parts if another handler stops. -/
theorem events_of_stopped (hs : Stage.ofConfiguration c = .ok s)
    (hlast : c.PublishesLast others publisher) (hdiscreet : ∀ part ∈ c.parts, part.Discreet)
    (hrecognised : c.Recognises e path e₁)
    (h : ∀ e₂, ¬ c.Handles principal others e path e₂) :
    (Run.exec (s.process principal) e).2.events = e.events := by
  rcases hothers : Run.exec (Handler.perform principal (.many others)) e₁.opened with ⟨result, e₂⟩
  cases result with
  | error fault =>
      rw [events_behind_chain hs hdiscreet hrecognised (hlast.exec_chain_of_stopped hothers),
        events_of_others hlast hdiscreet hrecognised hothers]
  | ok u =>
      obtain ⟨blocks, hblocks⟩ := Handler.exec_many_eq_ok_iff.mp hothers
      exact absurd ⟨e₁, blocks, hrecognised, hblocks⟩ (h e₂)

end Stage

/-! ## Histories with a publisher -/

namespace StageFilter

variable (filter : StageFilter) (e : Exchange)

@[simp] theorem now_entered : (filter.entered e).now = e.now := by
  cases filter <;> rfl

/-- On its way into a filter, an exchange gets no event. -/
@[simp] theorem events_entered : (filter.entered e).events = e.events := by
  cases filter with
  | stage s => rfl
  | decorated s => exact (Exchange.events_eq_append rfl).trans (List.append_nil _)

end StageFilter

namespace Assembly

variable {a : Assembly} {history : List Call} {filter : StageFilter} {publisher : Publisher}

/-- The chain of a history with a publisher ends with the clearing and the publication, and these
come behind handlers that publish only if one was added that does. -/
theorem exists_chain_of_publisher {c : Configuration}
    (h : (initial.applyAll history).buildConfiguration = .ok c)
    (hpublisher : lastGiven Call.publisher? history = some publisher) :
    ∃ before, c.handlers =
        before ++ [.one (.clearContext (invalidates history) (clears history))] ++
          [.one (.publishEvent publisher)] ∧
      ∀ handler ∈ before, handler ∈ addedHandlers history ∨
        ∀ other, .publishEvent other ∉ handler.actions := by
  obtain ⟨-, -, hhandlers, -⟩ := Options.eq_of_snapshot (snapshot_of_buildConfiguration h)
  have hevent : Options.eventHandlers (ofCalls history).surroundings =
      [.one (.publishEvent publisher)] := by
    rw [Options.eventHandlers_eq]
    show (lastGiven Call.publisher? history).toList.map _ = _
    rw [hpublisher]
    rfl
  have hchain := Options.eq_of_allHandlers hhandlers
  rw [hevent] at hchain
  refine ⟨_, hchain, ?_⟩
  intro handler hmem
  rcases List.mem_append.mp hmem with hmem | hservices
  · rcases List.mem_append.mp hmem with hadded | htoken
    · exact Or.inl hadded
    · obtain ⟨repository, rfl⟩ := Options.eq_of_mem_tokenHandlers htoken
      refine Or.inr fun other hother => ?_
      cases List.mem_singleton.mp hother
  · obtain ⟨services, -, hhandler⟩ := Option.bind_eq_some_iff.mp (Option.mem_toList.mp hservices)
    refine Or.inr fun other hother => ?_
    cases services with
    | only => cases hhandler
    | object => cases hhandler
    | withdrawn => cases hhandler
    | withLogout =>
        cases hhandler
        cases List.mem_singleton.mp hother
    | unawaited typeName =>
        cases hhandler
        cases List.mem_singleton.mp hother
    | custom collaborator =>
        cases hhandler
        cases List.mem_singleton.mp hother

/-- What a sign-out leaves of its event: it was handed over behind all that the other handlers
recorded, and unless parts of the application publish on their own, it is the one that was added to
those before.  It carries the time of the clock and shows the request as that came in, although the
session and the user were cleared by then as far as the switches ask for it. -/
structure Publishes (history : List Call) (filter : StageFilter) (e e₂ e' : Exchange)
    (event : Event) : Prop where
  last : e₂.calls ++ [.published event] <+: e'.calls
  once : (∀ part ∈ filter.parts, part.Discreet) → e'.events = e.events ++ [event]
  stamped : Calendar.Timestamp.ofSeconds e.now = .ok event.timestamp
  shown : event.Shows e.request
  invalidated : (invalidates history).isOn = true →
    e₂.request.session = none ∨ e₂.request.session = some []
  cleared : (clears history).isOn = true → e₂.request.userContext = some none ∧
    (e₂.request.user = none ∨ e₂.request.user = some (some .anonymous)) ∧
    e₂.request.principal? = none

/-- What a script with a publisher has published of a request that arrives at a second of the
machine's clock, if no handler that the script adds publishes.  The gate is done with the request in
one exchange.  On the way there it comes to a publication once the request was selected and all
handlers but the publishing one completed, in the exchange that these leave, and nowhere else.  Then
the event is published, as the last thing in the chain.  It shows whoever was signed in when the
request came in, and the target, the method and the client of the request, all of it behind the
clearing of the session and the user.  If the application publishes nothing on its own, that is the
one event, and in every other case there is none. -/
theorem event_of_dispatch (hleft : a.LeftBy history) (hbuilt : a.build.result = .ok filter)
    (hpublisher : lastGiven Call.publisher? history = some publisher)
    (hadded : ∀ handler ∈ addedHandlers history, ∀ other, .publishEvent other ∉ handler.actions) :
    ∃ others, filter.bare.configuration.handlers = others ++ [.one (.publishEvent publisher)] ∧
      ∀ e, Clock.Shows e.now → ∃ e', (∀ e₁, Gate.Leaves ⟨filter, .signedIn⟩ e e₁ ↔ e₁ = e') ∧
        (∀ other e₂, filter.Meets e.request.principal? e (.handler (.publishEvent other)) e₂ ↔
          other = publisher ∧ ∃ path, filter.bare.configuration.Handles e.request.principal? others
            (filter.entered e) path e₂) ∧
        (∀ path e₂, filter.bare.configuration.Handles e.request.principal? others
            (filter.entered e) path e₂ →
          ∃ event, Publishes history filter e e₂ e' event) ∧
        ((∀ path e₂, ¬ filter.bare.configuration.Handles e.request.principal? others
            (filter.entered e) path e₂) →
          (∀ part ∈ filter.parts, part.Discreet) → e'.events = e.events) := by
  rw [hleft.eq] at hbuilt
  obtain ⟨c, hc, hs, rfl⟩ := exists_configuration_of_build hbuilt
  obtain ⟨before, hchain, hbefore⟩ := exists_chain_of_publisher hc hpublisher
  -- what a script cannot add itself publishes at the end of the chain only
  have hsilent : ∀ handler ∈
      before ++ [.one (.clearContext (invalidates history) (clears history))],
      ∀ other, .publishEvent other ∉ handler.actions := by
    intro handler hmem
    rcases List.mem_append.mp hmem with hmem | hcontext
    · exact (hbefore handler hmem).elim (hadded handler) id
    · intro other hother
      rw [List.mem_singleton.mp hcontext] at hother
      cases List.mem_singleton.mp hother
  have hlast : filter.bare.configuration.PublishesLast _ publisher := ⟨hchain, hsilent⟩
  refine ⟨_, hchain, fun e hshows => ⟨_, fun e₁ => Gate.leaves_iff rfl, ?_, ?_, ?_⟩⟩
  · exact fun other e₂ => hlast.meets_publication_iff
  -- all other handlers completed
  · intro path e₂ hhandles
    obtain ⟨timestamp, htime⟩ := Calendar.Timestamp.exists_of_shows hshows
    rw [← filter.now_entered] at htime
    obtain ⟨hcalls, hevents⟩ := Stage.published_of_handles hs hlast hhandles htime
    rw [StageFilter.request_entered] at hcalls hevents
    rw [StageFilter.events_entered] at hevents
    rw [StageFilter.now_entered] at htime
    obtain ⟨e₁, blocks, hrecognised, hhandled⟩ := hhandles
    have hpath : e.request.urlPath = .ok path := by
      rw [← filter.request_entered, hrecognised.readable]
    obtain ⟨r, hcleared⟩ := Handler.exists_clearedRequest_of_handled hhandled
    rw [StageFilter.exec_process]
    exact ⟨_, hcalls, hevents, htime, Event.shows_signingOut hpath timestamp,
      fun hinvalidates => Handler.session_of_clearedRequest hcleared hinvalidates,
      fun hclears => Handler.user_of_clearedRequest hcleared hclears⟩
  -- they did not
  · intro hnone hdiscreet
    rw [StageFilter.exec_process, ← filter.events_entered e]
    by_cases hrecognised : ∃ path e₁,
        filter.bare.configuration.Recognises (filter.entered e) path e₁
    · obtain ⟨path, e₁, hrecognised⟩ := hrecognised
      exact Stage.events_of_stopped hs hlast hdiscreet hrecognised (hnone path)
    · exact Stage.events_of_unrecognised hs hdiscreet fun path e₁ h => hrecognised ⟨path, e₁, h⟩

/-- A script with a publisher and with services that have the operation of a handler. -/
def auditedScript : List Operation :=
  [.make (.eventPublisher (some { failure := none })), .make (.rememberMe (some .withLogout)),
    .make (.logout [])]

/-- The handlers of the script ahead of the publication. -/
def auditedHandlers : List Handler :=
  [.one .forgetUser, .one (.clearContext .on .on)]

/-- The configuration that the script leads to. -/
def auditedConfiguration : Configuration :=
  { Stage.sampleConfiguration with
    matcher := .atom (.logout defaultLogoutPath
      (Text.ordered ((allowedMethods true).map Text.upperText)))
    handlers := auditedHandlers ++ [.one (.publishEvent { failure := none })], routes := [] }

/-- The stage that the script leads to. -/
def auditedStage : Stage :=
  { configuration := auditedConfiguration, handler := .many auditedConfiguration.handlers
    success := .routed [] auditedConfiguration.fallback }

theorem build_auditedScript :
    (initial.applyAll (madeCalls auditedScript)).build.result =
      .ok (StageFilter.stage auditedStage) :=
  rfl

theorem discreet_auditedConfiguration : ∀ part ∈ auditedConfiguration.parts, part.Discreet := by
  intro part hpart
  rcases Configuration.mem_parts.mp hpart with hmatcher | ⟨handler, hmem, hhandler⟩ | hsuccess
  · rw [List.mem_singleton.mp hmatcher]
    trivial
  · simp only [auditedConfiguration, auditedHandlers, List.cons_append, List.nil_append,
      List.mem_cons, List.not_mem_nil, or_false] at hmem
    rcases hmem with rfl | rfl | rfl
    · rw [List.mem_singleton.mp hhandler]
      trivial
    · rw [List.mem_singleton.mp hhandler]
      trivial
    · rw [List.mem_singleton.mp hhandler]
      trivial
  · rw [List.mem_singleton.mp hsuccess]
    trivial

/-- A request through the default path is selected, and the handlers ahead of the publication
complete on it. -/
theorem exists_handles_auditedConfiguration :
    ∃ e₂, auditedConfiguration.Handles (some Stage.samplePrincipal) auditedHandlers
      Stage.sampleExchange defaultLogoutPath e₂ := by
  have hselects : Selects (madeCalls auditedScript) Stage.sampleExchange.request :=
    selects_sampleExchange rfl
  have hrecognised : auditedConfiguration.Recognises Stage.sampleExchange defaultLogoutPath
      Stage.sampleExchange := recognises_of_selects build_auditedScript rfl hselects
  exact ⟨_, _, _, hrecognised, .cons rfl rfl (.cons rfl rfl (.nil _))⟩

/-- A request through the default path by GET is not selected. -/
theorem not_handles_auditedConfiguration (path : String) (e₂ : Exchange) :
    ¬ auditedConfiguration.Handles (some Stage.samplePrincipal) auditedHandlers
      (sampleRequest "GET" defaultLogoutPath) path e₂ := by
  rintro ⟨e₁, blocks, hrecognised, -⟩
  have hacts : (StageFilter.stage auditedStage).ActsOn (some Stage.samplePrincipal)
      (sampleRequest "GET" defaultLogoutPath) :=
    StageFilter.actsOn_of_selected hrecognised.selected
  refine hacts _ (letsPass_of_not_selects build_auditedScript rfl (urlPath_sampleRequest _ _) ?_)
  rintro ⟨-, hmethod⟩
  revert hmethod
  decide

theorem event_of_dispatch_sample :
    (∃ e', Gate.Leaves ⟨StageFilter.stage auditedStage, .signedIn⟩ Stage.sampleExchange e' ∧
      ∃ event, e'.events = [event] ∧ event.member? "principal" = some (.string "ann")) ∧
    ∃ e', Gate.Leaves ⟨StageFilter.stage auditedStage, .signedIn⟩
        (sampleRequest "GET" defaultLogoutPath) e' ∧ e'.events = [] := by
  have hadded : ∀ handler ∈ addedHandlers (madeCalls auditedScript), ∀ other,
      .publishEvent other ∉ handler.actions := by
    intro handler hmem
    cases hmem
  obtain ⟨others, hchain, hall⟩ :=
    event_of_dispatch (.script .fresh auditedScript) build_auditedScript rfl hadded
  obtain rfl : auditedHandlers = others := List.append_cancel_right hchain
  refine ⟨?_, ?_⟩
  · obtain ⟨e', hleaves, -, hone, -⟩ := hall Stage.sampleExchange (by decide)
    obtain ⟨e₂, hhandles⟩ := exists_handles_auditedConfiguration
    obtain ⟨event, hevent⟩ := hone defaultLogoutPath e₂ hhandles
    exact ⟨e', (hleaves e').mpr rfl, event, hevent.once discreet_auditedConfiguration,
      hevent.shown.principal.2⟩
  · obtain ⟨e', hleaves, -, -, hnone⟩ := hall (sampleRequest "GET" defaultLogoutPath) (by decide)
    exact ⟨e', (hleaves e').mpr rfl,
      hnone not_handles_auditedConfiguration discreet_auditedConfiguration⟩

end Assembly

end SignOut
