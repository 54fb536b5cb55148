import Mathlib.Data.List.Forall2
import SignOut.Proofs.Bond
import SignOut.Proofs.Clearing
import SignOut.Proofs.Removal

/-!
# Requests do not influence each other

One filter serves all requests, and all of them share one session store.  What a request finds in
the store makes no difference to it: the store is only ever told what to remove, and how much there
was to remove is merely logged.  So two runs for the same request, on two stores that refuse the
same operation, go side by side: they give the same result, leave the same request and the same
calls, and make the same removals; their log records differ in counts at most.  Removals commute,
and therefore any number of requests can be served in any order with the same results and the same
store in the end.
-/

namespace SignOut

/-! ## Twin exchanges -/

/-- Two log records that differ in the number of removed records at most. -/
def LogRecord.SameButCount (x y : LogRecord) : Prop :=
  y = x ∨ ∃ deleted other, x = Handler.removal deleted ∧ y = Handler.removal other

/-- Two exchanges for the same request, on two stores from which the same was removed. -/
structure Exchange.Twin (s s' : Store) (e f : Exchange) : Prop where
  now_eq : f.now = e.now
  request_eq : f.request = e.request
  response_eq : f.response = e.response
  calls_eq : f.calls = e.calls
  records : List.Forall₂ LogRecord.SameButCount e.records f.records
  removals : ∃ removals, e.store = s.clearAll removals ∧ f.store = s'.clearAll removals

namespace Exchange.Twin

variable {s s' : Store} {e f : Exchange}

theorem called (h : Twin s s' e f) (calls : List Call) :
    Twin s s' { e with calls := e.calls ++ calls } { f with calls := f.calls ++ calls } :=
  { h with calls_eq := by rw [h.calls_eq] }

theorem logged (h : Twin s s' e f) {entry other : LogRecord} (hentry : entry.SameButCount other) :
    Twin s s' { e with records := e.records ++ [entry] }
      { f with records := f.records ++ [other] } :=
  { h with records := List.rel_append h.records (.cons hentry .nil) }

/-- The same removal can be made on both sides. -/
theorem cleared (h : Twin s s' e f) (removal : Removal) :
    Twin s s' { e with store := e.store.clear removal }
      { f with store := f.store.clear removal } := by
  obtain ⟨removals, hstore, hstore'⟩ := h.removals
  refine { h with removals := ⟨removals ++ [removal], ?_, ?_⟩ }
  · rw [hstore, Store.clearAll_append]
    rfl
  · rw [hstore', Store.clearAll_append]
    rfl

/-- Twin exchanges have stores that refuse the same operation if the stores did so from the
start. -/
theorem refuses_eq (h : Twin s s' e f) (hrefuses : s'.refuses = s.refuses) :
    f.store.refuses = e.store.refuses := by
  obtain ⟨removals, hstore, hstore'⟩ := h.removals
  rw [hstore, hstore', Store.refuses_clearAll, Store.refuses_clearAll, hrefuses]

end Exchange.Twin

namespace Bond

variable {s s' : Store} (principal : Option Principal)

/-- The bond of two runs for the same request and principal on two stores. -/
def twin (s s' : Store) (principal : Option Principal) : Bond principal principal where
  Rel := Exchange.Twin s s'
  outline_eq h := by rw [h.request_eq]
  recorded calls e f h := by
    have hsame : calls principal f.request = calls principal e.request := by rw [h.request_eq]
    rw [hsame]
    exact h.called _

instance : (twin s s' principal).AllowsAnswers where
  now_eq h := h.now_eq
  response_eq h := h.response_eq
  answered write _ _ h := { h with response_eq := congrArg write h.response_eq }
  logged _ _ _ h := h.logged (Or.inl rfl)

theorem twin_holds_removeMember (hrefuses : s'.refuses = s.refuses) (set member : String) :
    (twin s s' principal).Holds (Run.removeMember set member) (Run.removeMember set member) := by
  intro e f h
  have hcalled := Exchange.Twin.called h [.removedMember set member]
  rw [Run.exec_removeMember, Run.exec_removeMember, h.refuses_eq hrefuses]
  split
  · exact ⟨rfl, hcalled⟩
  · exact ⟨rfl, hcalled.cleared (.member set member)⟩

/-- A key is deleted on both sides, though there may be a record on one of them only, or the stores
refuse it. -/
theorem twin_deleteKey (hrefuses : s'.refuses = s.refuses) (key : String) {e f : Exchange}
    (h : Exchange.Twin s s' e f) :
    (∃ deleted other e₁ f₁, Run.exec (Run.deleteKey key) e = (.ok deleted, e₁) ∧
      Run.exec (Run.deleteKey key) f = (.ok other, f₁) ∧ Exchange.Twin s s' e₁ f₁) ∨
    ∃ fault e₁ f₁, Run.exec (Run.deleteKey key) e = (.error fault, e₁) ∧
      Run.exec (Run.deleteKey key) f = (.error fault, f₁) ∧ Exchange.Twin s s' e₁ f₁ := by
  have hcalled := h.called [.deletedKey key]
  rw [Run.exec_deleteKey, Run.exec_deleteKey, h.refuses_eq hrefuses]
  split
  · exact Or.inr ⟨_, _, _, rfl, rfl, hcalled⟩
  · exact Or.inl ⟨_, _, _, _, rfl, rfl, hcalled.cleared (.record key)⟩

/-- A stored session is removed alike from both stores; only the count in the log record tells
them apart. -/
theorem twin_holds_removeSession (hrefuses : s'.refuses = s.refuses) (removal : SessionRemoval) :
    (twin s s' principal).Holds (Handler.removeSession removal principal)
      (Handler.removeSession removal principal) := by
  intro e f h
  have hsame : f.request = e.request := h.request_eq
  unfold Handler.removeSession
  -- the request is the same, so both runs find the same session id or both find none
  rw [Run.exec_bind_of_ok (Run.exec_request e), Run.exec_bind_of_ok (Run.exec_request f), hsame]
  split
  · exact ⟨rfl, h⟩
  split
  · exact ⟨rfl, h⟩
  rename_i id hid hgiven
  have hindex : (twin s s' principal).Holds (Handler.removeFromIndex removal principal id)
      (Handler.removeFromIndex removal principal id) := by
    unfold Handler.removeFromIndex
    split
    · exact (twin s s' principal).holds_pure ()
    · exact twin_holds_removeMember principal hrefuses _ _
  rcases twin_deleteKey hrefuses (removal.recordKey id) h with
    ⟨deleted, other, e₁, f₁, he, hf, hdeleted⟩ | ⟨fault, e₁, f₁, he, hf, hstopped⟩
  · rw [Run.exec_bind_of_ok he, Run.exec_bind_of_ok hf]
    rcases hrun : Run.exec (Handler.removeFromIndex removal principal id) e₁ with ⟨result, e₂⟩
    obtain ⟨f₂, hrun', hindexed⟩ := hindex.exists_exec hdeleted hrun
    cases result with
    | error fault =>
        rw [Run.exec_bind_of_error hrun, Run.exec_bind_of_error hrun']
        exact ⟨rfl, hindexed⟩
    | ok u =>
        rw [Run.exec_bind_of_ok hrun, Run.exec_bind_of_ok hrun']
        exact ⟨rfl, Exchange.Twin.logged hindexed (Or.inr ⟨deleted, other, rfl, rfl⟩)⟩
  · rw [Run.exec_bind_of_error he, Run.exec_bind_of_error hf]
    exact ⟨rfl, hstopped⟩

end Bond

/-! ## Parts that ignore the store -/

/-- A collaborator leaves the session store as it is, and neither the store nor what was recorded so
far has a say in what it does. -/
def Collaborator.IgnoresStore (c : Collaborator) : Prop :=
  ∀ principal e store calls records,
    c.act principal { e with store, calls, records } = { c.act principal e with store }

/-- A part of the application ignores the store; the library's own parts tell it what to remove and
nothing else. -/
def Part.IgnoresStore : Part → Prop
  | .handler (.custom collaborator) => collaborator.IgnoresStore
  | .success (.custom collaborator) => collaborator.IgnoresStore
  | _ => True

namespace Bond

variable {s s' : Store} {principal : Option Principal}

theorem twin_holds_engage {c : Collaborator} (h : c.IgnoresStore) :
    (twin s s' principal).Holds (c.engage principal) (c.engage principal) := by
  intro e f hrel
  have hdeed : c.act principal f = { c.act principal e with store := f.store } := by
    rw [← h principal e f.store f.calls f.records]
    obtain ⟨now, request, response, store, calls, records⟩ := f
    obtain ⟨rfl, rfl, rfl, -, -, -⟩ := hrel
    rfl
  have hstore : (c.act principal e).store = e.store :=
    congrArg Deed.store (h principal e e.store e.calls e.records)
  have hcalled := Exchange.Twin.called hrel (c.act principal e).calls
  have hdone : Exchange.Twin s s' ((c.act principal e).applyTo e)
      ((c.act principal f).applyTo f) := by
    rw [hdeed]
    exact { now_eq := hrel.now_eq
            request_eq := by simp [Deed.applyTo, hrel.request_eq]
            response_eq := rfl
            calls_eq := hcalled.calls_eq
            records := hrel.records
            removals := by simpa [Deed.applyTo, hstore] using hrel.removals }
  rw [Collaborator.exec_engage, Collaborator.exec_engage]
  exact ⟨by rw [hdeed], hdone⟩

/-- The bond of twins admits every part that ignores the store. -/
theorem twin_admits (hrefuses : s'.refuses = s.refuses) {part : Part} (h : part.IgnoresStore) :
    (twin s s' principal).Admits part := by
  cases part with
  | matcher atom =>
      cases atom with
      | custom observer =>
          refine holds_observe fun hrel => ?_
          rw [Exchange.Twin.request_eq hrel]
      | _ => trivial
  | handler action =>
      cases action with
      | clearContext session authentication =>
          exact fun _ _ hrel => ⟨rfl, { hrel with
            request_eq := congrArg
              (Handler.clearedRequest session.isOn authentication.isOn) hrel.request_eq }⟩
      | removeSession removal => exact twin_holds_removeSession principal hrefuses removal
      | custom collaborator => exact twin_holds_engage h
      | _ => trivial
  | success answer =>
      cases answer with
      | custom collaborator => exact twin_holds_engage h
      | _ => trivial

end Bond

/-! ## One filter and many requests -/

/-- A request on its way to a filter: the moment when it arrives, and for whom it is served. -/
structure Visit where
  now : Int
  request : Request
  principal : Option Principal

/-- The exchange in which a visit is served on a store. -/
def Visit.arrive (visit : Visit) (store : Store) : Exchange :=
  { now := visit.now, request := visit.request, response := Response.initial, store
    calls := [], records := [] }

/-- What became of a visit: the result, the request as it was left, and what could be observed. -/
structure Served where
  visit : Visit
  result : Except Fault (Option Response)
  request : Request
  calls : List Call
  records : List LogRecord

/-- Two servings of a visit went alike: their log records differ in counts at most. -/
structure Served.Agrees (x y : Served) : Prop where
  result_eq : y.result = x.result
  request_eq : y.request = x.request
  calls_eq : y.calls = x.calls
  records : List.Forall₂ LogRecord.SameButCount x.records y.records

namespace StageFilter

/-- Serve one visit: what became of it, and the store that it leaves. -/
def serve (filter : StageFilter) (store : Store) (visit : Visit) : Served × Store :=
  let ran := Run.exec (filter.process visit.principal) (visit.arrive store)
  ({ visit, result := ran.1, request := ran.2.request, calls := ran.2.calls
     records := ran.2.records },
    ran.2.store)

/-- Serve visits one after another on one store. -/
def serveAll (filter : StageFilter) (store : Store) : List Visit → List Served × Store
  | [] => ([], store)
  | visit :: rest =>
      let first := filter.serve store visit
      let others := filter.serveAll first.2 rest
      (first.1 :: others.1, others.2)

variable {c : Configuration} {filter : StageFilter}

/-- A visit is served alike on two stores that refuse the same operation, and the same is removed
from both. -/
theorem serve_twin (hs : Stage.ofConfiguration c = .ok filter.bare)
    (hignores : ∀ part ∈ filter.parts, part.IgnoresStore) {s s' : Store}
    (hrefuses : s'.refuses = s.refuses) (visit : Visit) :
    (filter.serve s visit).1.Agrees (filter.serve s' visit).1 ∧
      ∃ removals, (filter.serve s visit).2 = s.clearAll removals ∧
        (filter.serve s' visit).2 = s'.clearAll removals := by
  have harrived : Exchange.Twin s s' (visit.arrive s) (visit.arrive s') :=
    ⟨rfl, rfl, rfl, rfl, .nil, [], rfl, rfl⟩
  have hentered : Exchange.Twin s s' (filter.entered (visit.arrive s))
      (filter.entered (visit.arrive s')) := by
    cases filter with
    | stage s => exact harrived
    | decorated s => exact harrived.called [.decoratedProcess]
  have hparts : ∀ part ∈ c.parts, (Bond.twin s s' visit.principal).Admits part := by
    obtain ⟨rfl⟩ : filter.bare.configuration = c := by rw [Stage.eq_of_ofConfiguration hs]
    exact fun part hpart => Bond.twin_admits hrefuses (hignores part hpart)
  obtain ⟨hresult, htwin⟩ := Bond.holds_process hs hparts _ _ hentered
  unfold serve
  rw [exec_process, exec_process]
  exact ⟨⟨hresult, htwin.request_eq, htwin.calls_eq, htwin.records⟩, htwin.removals⟩

theorem refuses_serve (hs : Stage.ofConfiguration c = .ok filter.bare)
    (hignores : ∀ part ∈ filter.parts, part.IgnoresStore) (s : Store) (visit : Visit) :
    (filter.serve s visit).2.refuses = s.refuses := by
  obtain ⟨-, removals, hstore, -⟩ := serve_twin hs hignores (rfl : s.refuses = s.refuses) visit
  rw [hstore, Store.refuses_clearAll]

/-- Two visits leave the same store in either order. -/
theorem serve_comm (hs : Stage.ofConfiguration c = .ok filter.bare)
    (hignores : ∀ part ∈ filter.parts, part.IgnoresStore) (s : Store) (x y : Visit) :
    (filter.serve (filter.serve s x).2 y).2 = (filter.serve (filter.serve s y).2 x).2 := by
  -- what each of the two removes does not depend on whether the other came before it
  obtain ⟨-, removals, hx, hx'⟩ := serve_twin hs hignores (refuses_serve hs hignores s y) x
  obtain ⟨-, others, hy, hy'⟩ := serve_twin hs hignores (refuses_serve hs hignores s x) y
  rw [hx', hy', hx, hy, Store.clearAll_comm]

/-- The store in the end is that which each visit leaves to the next. -/
theorem serveAll_store (s : Store) (visits : List Visit) :
    (filter.serveAll s visits).2 =
      visits.foldl (fun store visit => (filter.serve store visit).2) s := by
  induction visits generalizing s with
  | nil => rfl
  | cons visit rest ih => exact ih _

@[simp] theorem map_visit_serveAll (s : Store) (visits : List Visit) :
    (filter.serveAll s visits).1.map Served.visit = visits := by
  induction visits generalizing s with
  | nil => rfl
  | cons visit rest ih => exact congrArg (visit :: ·) (ih _)

/-- Each visit is served on some store that refuses what the first one refused. -/
theorem exists_serve_of_mem (hs : Stage.ofConfiguration c = .ok filter.bare)
    (hignores : ∀ part ∈ filter.parts, part.IgnoresStore) {s : Store} {visits : List Visit}
    {served : Served} (h : served ∈ (filter.serveAll s visits).1) :
    ∃ s', s'.refuses = s.refuses ∧ served = (filter.serve s' served.visit).1 := by
  induction visits generalizing s with
  | nil => cases h
  | cons visit rest ih =>
      rcases List.mem_cons.mp h with rfl | h
      · exact ⟨s, rfl, rfl⟩
      · obtain ⟨s', hrefuses, hserved⟩ := ih h
        exact ⟨s', hrefuses.trans (refuses_serve hs hignores s visit), hserved⟩

/-- Requests do not influence each other through a filter.  However many visits it serves, and in
whatever order, each of them has the same result, leaves the same session and user and the same
calls, and the store is the same in the end; only counts in the log records of removals may differ.
This holds of every filter whose collaborators of the application, if there are any, ignore the
store. -/
theorem serveAll_of_perm (hs : Stage.ofConfiguration c = .ok filter.bare)
    (hignores : ∀ part ∈ filter.parts, part.IgnoresStore) {visits visits' : List Visit}
    (hperm : visits.Perm visits') (s : Store) :
    (filter.serveAll s visits').2 = (filter.serveAll s visits).2 ∧
      (filter.serveAll s visits).1.map Served.visit = visits ∧
      (filter.serveAll s visits').1.map Served.visit = visits' ∧
      ∀ served ∈ (filter.serveAll s visits).1, ∀ served' ∈ (filter.serveAll s visits').1,
        served'.visit = served.visit → served.Agrees served' := by
  refine ⟨?_, map_visit_serveAll s visits, map_visit_serveAll s visits', ?_⟩
  -- the store in the end: neighbours in the list of visits can be exchanged
  · rw [serveAll_store, serveAll_store]
    exact (hperm.foldl_eq' (fun x _ y _ store => serve_comm hs hignores store x y) s).symm
  -- a single visit: wherever it stands in the list, the store it is served on refuses the same
  · intro served hmem served' hmem' hsame
    obtain ⟨store, hrefuses, hserved⟩ := exists_serve_of_mem hs hignores hmem
    obtain ⟨store', hrefuses', hserved'⟩ := exists_serve_of_mem hs hignores hmem'
    rw [hserved, hserved', hsame]
    exact (serve_twin hs hignores (hrefuses'.trans hrefuses.symm) served.visit).1

/-- A configuration that removes the stored session and has a handler of the application. -/
def sharedConfiguration : Configuration :=
  { Stage.removingConfiguration with
    handlers := Stage.removingConfiguration.handlers ++ [.one (.custom Assembly.sampleAudit)] }

/-- Two visits with the same session, of which one comes for its user and the other for nobody. -/
def sampleVisits : Visit × Visit :=
  ({ now := 0, request := Stage.sampleExchange.request, principal := some Stage.samplePrincipal },
    { now := 60, request := Stage.sampleExchange.request, principal := none })

/-- A store with the session of both visits. -/
def sharedStore : Store :=
  { keys := ["auth_session:s1"], sets := [("auth_session:user:u1:global", ["s1", "s2"])]
    refuses := none }

theorem serveAll_of_perm_sample :
    ∃ filter : StageFilter, Stage.ofConfiguration sharedConfiguration = .ok filter.bare ∧
      (filter.serveAll sharedStore [sampleVisits.1, sampleVisits.2]).2 =
        (filter.serveAll sharedStore [sampleVisits.2, sampleVisits.1]).2 ∧
      (filter.serve (filter.serve sharedStore sampleVisits.1).2 sampleVisits.2).1.result =
        (filter.serve sharedStore sampleVisits.2).1.result := by
  have hbuilt : ∃ s, Stage.ofConfiguration sharedConfiguration = .ok s := ⟨_, rfl⟩
  obtain ⟨s, hs⟩ := hbuilt
  have hignores : ∀ part ∈ (StageFilter.stage s).parts, part.IgnoresStore := by
    have hparts : (StageFilter.stage s).parts =
        [.matcher (.logout defaultLogoutPath (allowedMethods true)), .handler .forgetUser,
          .handler (.removeSession .standard), .handler (.clearContext .on .on),
          .handler (.custom Assembly.sampleAudit), .matcher (.probe "script" (.ok false)),
          .success (.status (some 204)), .matcher (.probe "browser" (.ok true)),
          .success (.recording "farewell" (some 200)),
          .success (.negotiating defaultLoginPath)] := by
      cases hs
      rfl
    have haudit : Assembly.sampleAudit.IgnoresStore := fun _ _ _ _ _ => rfl
    rw [hparts]
    simp [Part.IgnoresStore, haudit]
  have hbare : Stage.ofConfiguration sharedConfiguration = .ok (StageFilter.stage s).bare := hs
  obtain ⟨hstore, -, -, hagree⟩ := serveAll_of_perm hbare hignores
    (List.Perm.swap sampleVisits.1 sampleVisits.2 []) sharedStore
  refine ⟨.stage s, hs, hstore, ?_⟩
  -- the second visit is the first to be served in one order and the last in the other
  have hfirst : ((StageFilter.stage s).serve sharedStore sampleVisits.2).1 ∈
      ((StageFilter.stage s).serveAll sharedStore [sampleVisits.2, sampleVisits.1]).1 :=
    List.mem_cons_self
  have hlast : ((StageFilter.stage s).serve
      ((StageFilter.stage s).serve sharedStore sampleVisits.1).2 sampleVisits.2).1 ∈
      ((StageFilter.stage s).serveAll sharedStore [sampleVisits.1, sampleVisits.2]).1 :=
    List.mem_cons_of_mem _ List.mem_cons_self
  exact (hagree _ hfirst _ hlast rfl).result_eq

end StageFilter

end SignOut
