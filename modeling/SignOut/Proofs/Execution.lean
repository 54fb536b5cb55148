import SignOut.Collaborator

/-!
# The laws of runs

How runs compose.  A sequence of two runs continues from the exchange that the first one reached,
and a fault of the first one is the fault of the sequence.  The equivalences read a completed or
stopped sequence back into what its two halves did; every later statement about a run is built
from them and from the equations of the single operations.
-/

namespace SignOut
namespace Run

variable {α β : Type}

@[simp] theorem exec_pure (a : α) (e : Exchange) :
    exec (pure a) e = (.ok a, e) := rfl

@[simp] theorem exec_stop (fault : Fault) (e : Exchange) :
    exec (stop fault : Run α) e = (.error fault, e) := rfl

@[simp] theorem exec_get (e : Exchange) :
    exec (get : Run Exchange) e = (.ok e, e) := rfl

@[simp] theorem exec_modify (f : Exchange → Exchange) (e : Exchange) :
    exec (modify f : Run PUnit) e = (.ok (), f e) := rfl

@[simp] theorem exec_request (e : Exchange) :
    exec request e = (.ok e.request, e) := rfl

@[simp] theorem exec_record (call : Call) (e : Exchange) :
    exec (record call) e = (.ok (), { e with calls := e.calls ++ [call] }) := rfl

@[simp] theorem exec_log (entry : LogRecord) (e : Exchange) :
    exec (log entry) e = (.ok (), { e with records := e.records ++ [entry] }) := rfl

@[simp] theorem exec_modifyRequest (f : Request → Request) (e : Exchange) :
    exec (modifyRequest f) e = (.ok (), { e with request := f e.request }) := rfl

@[simp] theorem exec_modifyResponse (f : Response → Response) (e : Exchange) :
    exec (modifyResponse f) e = (.ok (), { e with response := f e.response }) := rfl

/-- A sequence goes on from where its first half completed, or stops where that stopped. -/
theorem exec_bind (action : Run α) (next : α → Run β) (e : Exchange) :
    exec (action >>= next) e =
      match exec action e with
      | (.ok a, e₁) => exec (next a) e₁
      | (.error fault, e₁) => (.error fault, e₁) := by
  show (StateT.run (ExceptT.run action) e >>= fun p =>
    StateT.run (ExceptT.bindCont next p.1) p.2) = _
  unfold exec
  rcases StateT.run (ExceptT.run action) e with ⟨result, e₁⟩
  cases result with
  | ok a => rfl
  | error fault => rfl

theorem exec_bind_of_ok {action : Run α} {next : α → Run β} {e e₁ : Exchange} {a : α}
    (h : exec action e = (.ok a, e₁)) :
    exec (action >>= next) e = exec (next a) e₁ := by
  rw [exec_bind, h]

theorem exec_bind_of_error {action : Run α} {next : α → Run β} {e e₁ : Exchange} {fault : Fault}
    (h : exec action e = (.error fault, e₁)) :
    exec (action >>= next) e = (.error fault, e₁) := by
  rw [exec_bind, h]

theorem exec_urlPath_of_ok {e : Exchange} {path : String} (h : e.request.urlPath = .ok path) :
    exec urlPath e = (.ok path, e) := by
  unfold urlPath
  rw [exec_bind_of_ok (exec_request e), h]
  rfl

theorem exec_urlPath_of_error {e : Exchange} {run : Text.UndecodableRun}
    (h : e.request.urlPath = .error run) :
    exec urlPath e = (.error (.undecodable run), e) := by
  unfold urlPath
  rw [exec_bind_of_ok (exec_request e), h]
  rfl

/-- A key is deleted, or the store refuses; the call is recorded in either case. -/
theorem exec_deleteKey (key : String) (e : Exchange) :
    exec (deleteKey key) e =
      if e.store.refuses = some .delete then
        (.error (.raised "redis delete failed"), { e with calls := e.calls ++ [.deletedKey key] })
      else
        (.ok (e.store.countOf key),
          { e with calls := e.calls ++ [.deletedKey key], store := e.store.delete key }) := by
  unfold deleteKey
  rw [exec_bind_of_ok (exec_record _ e), exec_bind_of_ok (exec_get _)]
  split
  · rfl
  · rfl

/-- A member is removed, or the store refuses; the call is recorded in either case. -/
theorem exec_removeMember (set member : String) (e : Exchange) :
    exec (removeMember set member) e =
      if e.store.refuses = some .remove then
        (.error (.raised "redis srem failed"),
          { e with calls := e.calls ++ [.removedMember set member] })
      else
        (.ok (),
          { e with
            calls := e.calls ++ [.removedMember set member]
            store := e.store.remove set member }) := by
  unfold removeMember
  rw [exec_bind_of_ok (exec_record _ e), exec_bind_of_ok (exec_get _)]
  split
  · rfl
  · rfl

/-- A sequence completes iff both halves do, one from where the other ended. -/
theorem exec_bind_eq_ok_iff {action : Run α} {next : α → Run β} {e e' : Exchange} {b : β} :
    exec (action >>= next) e = (.ok b, e') ↔
      ∃ a e₁, exec action e = (.ok a, e₁) ∧ exec (next a) e₁ = (.ok b, e') := by
  rcases h : exec action e with ⟨result, e₁⟩
  cases result with
  | ok a =>
      rw [exec_bind_of_ok h]
      constructor
      · intro hnext
        exact ⟨a, e₁, rfl, hnext⟩
      · rintro ⟨a', e₁', heq, hnext⟩
        cases heq
        exact hnext
  | error fault =>
      rw [exec_bind_of_error h]
      constructor
      · intro heq
        cases heq
      · rintro ⟨a', e₁', heq, -⟩
        cases heq

/-- A sequence stops iff its first half stops, or that completes and the second half stops. -/
theorem exec_bind_eq_error_iff {action : Run α} {next : α → Run β} {e e' : Exchange}
    {fault : Fault} :
    exec (action >>= next) e = (.error fault, e') ↔
      exec action e = (.error fault, e') ∨
        ∃ a e₁, exec action e = (.ok a, e₁) ∧ exec (next a) e₁ = (.error fault, e') := by
  rcases h : exec action e with ⟨result, e₁⟩
  cases result with
  | ok a =>
      rw [exec_bind_of_ok h]
      constructor
      · intro hnext
        exact Or.inr ⟨a, e₁, rfl, hnext⟩
      · rintro (heq | ⟨a', e₁', heq, hnext⟩)
        · cases heq
        · cases heq
          exact hnext
  | error fault' =>
      rw [exec_bind_of_error h]
      constructor
      · intro heq
        cases heq
        exact Or.inl rfl
      · rintro (heq | ⟨a', e₁', heq, -⟩)
        · cases heq
          rfl
        · cases heq

theorem exec_forM_record (calls : List Call) (e : Exchange) :
    exec (calls.forM record) e = (.ok (), { e with calls := e.calls ++ calls }) := by
  induction calls generalizing e with
  | nil => simp
  | cons call rest ih =>
      refine (exec_bind_of_ok (exec_record call e)).trans ((ih _).trans ?_)
      simp

end Run

/-- A collaborator of the application does its deed, and completes or stops as that says. -/
theorem Collaborator.exec_engage (c : Collaborator) (principal : Option Principal) (e : Exchange) :
    Run.exec (c.engage principal) e =
      ((c.act principal e).outcome, (c.act principal e).applyTo e) := by
  unfold engage
  rw [Run.exec_bind_of_ok (Run.exec_get e), Run.exec_bind_of_ok (Run.exec_modify _ e)]
  cases (c.act principal e).outcome with
  | ok u => rfl
  | error fault => rfl

/-- A matcher of the application records its calls, and answers or stops. -/
theorem Observer.exec_ask (o : Observer) (e : Exchange) :
    Run.exec o.ask e = (o.answer e.request, { e with calls := e.calls ++ o.calls e.request }) := by
  unfold ask
  rw [Run.exec_bind_of_ok (Run.exec_request e), Run.exec_bind_of_ok (Run.exec_forM_record _ e)]
  cases o.answer e.request with
  | ok answer => rfl
  | error fault => rfl

end SignOut
