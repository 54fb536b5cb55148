import SignOut.Proofs.Course

/-!
# Handlers that stop half-way

What a handler leaves when it stops in the middle of its own work.  A handler of any depth runs
its single handlers in order, so it stops with the first of them that does.  The removal of a
stored session has two steps, and a store that refuses the second has already done the first.
Cookies are expired one by one, and those ahead of a cookie that is refused stay expired.
-/

namespace SignOut

namespace Chain

variable {α : Type} {m : Type → Type} [Monad m] [LawfulMonad m]

mutual

/-- Grouping adds nothing: a chain runs its actions from left to right. -/
theorem run_eq_forM (act : α → m PUnit) : (chain : Chain α) →
    chain.run act = chain.actions.forM act
  | .one action => by
      show act action = (do act action; pure ⟨⟩)
      rw [bind_pure_unit]
  | .many parts => runAll_eq_forM act parts

theorem runAll_eq_forM (act : α → m PUnit) : (parts : List (Chain α)) →
    runAll act parts = (actionsAll parts).forM act
  | [] => rfl
  | part :: rest => by
      show (do part.run act; runAll act rest) = forM (part.actions ++ actionsAll rest) act
      rw [run_eq_forM act part, runAll_eq_forM act rest, List.forM_append]
      rfl

end

end Chain

namespace Handler

variable {principal : Option Principal} {e e' : Exchange} {fault : Fault}

/-- A handler stops iff one of its single handlers does, at whatever depth it stands, after all
those before it and ahead of all those behind it. -/
theorem exec_perform_eq_error_iff {handler : Handler} :
    Run.exec (handler.perform principal) e = (.error fault, e') ↔
      ∃ before action after blocks e₁, handler.actions = before ++ action :: after ∧
        Run.InOrder (Action.perform principal) () before e blocks e₁ ∧
        Run.exec (action.perform principal) e₁ = (.error fault, e') := by
  have hperform : handler.perform principal = handler.actions.forM (Action.perform principal) :=
    Chain.run_eq_forM _ handler
  rw [hperform]
  exact Run.exec_forM_eq_error_iff fun action =>
    Frame.holds_action_perform (Frame.onward_admits action) principal

/-! ## The removal of a stored session -/

section Removal

variable {s : SessionRemoval} {id : String}

/-- With an id, the removal starts with the record of the session. -/
theorem exec_removeSession (hid : s.sessionId? e.request = some id) (hgiven : id ≠ "") :
    Run.exec (removeSession s principal) e =
      Run.exec (do
        let deleted ← Run.deleteKey (s.recordKey id)
        removeFromIndex s principal id
        Run.log (removal deleted)) e := by
  unfold removeSession
  rw [Run.exec_bind_of_ok (Run.exec_request e), hid]
  simp only [if_neg hgiven]

/-- A store that refuses to delete has nothing done to it. -/
theorem exec_removeSession_of_refused_delete (hid : s.sessionId? e.request = some id)
    (hgiven : id ≠ "") (hrefused : e.store.refuses = some .delete) :
    Run.exec (removeSession s principal) e =
      (.error (.raised "redis delete failed"),
        { e with calls := e.calls ++ [.deletedKey (s.recordKey id)] }) := by
  rw [exec_removeSession hid hgiven]
  refine Run.exec_bind_of_error ?_
  rw [Run.exec_deleteKey, if_pos hrefused]

/-- A store that refuses to touch its index has deleted the record of the session, and the removal
is not logged. -/
theorem exec_removeSession_of_refused_remove {user : Json}
    (hid : s.sessionId? e.request = some id) (hgiven : id ≠ "")
    (huser : principal.bind Principal.indexId? = some user)
    (hrefused : e.store.refuses = some .remove) :
    Run.exec (removeSession s principal) e =
      (.error (.raised "redis srem failed"),
        { e with
          store := e.store.delete (s.recordKey id)
          calls := e.calls ++
            [.deletedKey (s.recordKey id), .removedMember (s.indexName user) id] }) := by
  have hdelete : e.store.refuses ≠ some .delete := by
    rw [hrefused]
    decide
  have hdeleted := Run.exec_deleteKey (s.recordKey id) e
  rw [if_neg hdelete] at hdeleted
  rw [exec_removeSession hid hgiven, Run.exec_bind_of_ok hdeleted]
  refine Run.exec_bind_of_error ?_
  unfold removeFromIndex
  rw [huser]
  show Run.exec (Run.removeMember _ _) _ = _
  rw [Run.exec_removeMember]
  refine (if_pos hrefused).trans ?_
  simp

end Removal

/-! ## Cookies -/

section Cookies

variable {path domain : Option String} {name : String} {names : List String}

/-- The exchange with header lines that expire cookies. -/
def withExpired (lines : List String) (e : Exchange) : Exchange :=
  { e with
    response :=
      { e.response with
        headers := e.response.headers ++ lines.map fun line => ("set-cookie", line) } }

theorem expireCookies_eq_forM (path domain : Option String) (names : List String) :
    expireCookies path domain names = names.forM fun name => Run.expireCookie name path domain := by
  induction names with
  | nil => rfl
  | cons name rest ih =>
      show (do Run.expireCookie name path domain; expireCookies path domain rest) = _
      rw [ih]
      rfl

/-- A cookie is expired by one header line, or nothing is written. -/
theorem exec_expireCookie (name : String) (path domain : Option String) (e : Exchange) :
    (∃ line, Cookie.deletion name path domain e.now = .ok line ∧
      Run.exec (Run.expireCookie name path domain) e = (.ok (), withExpired [line] e)) ∨
    ∃ fault, Run.exec (Run.expireCookie name path domain) e = (.error fault, e) := by
  unfold Run.expireCookie
  split
  · exact Or.inr ⟨_, rfl⟩
  split
  · exact Or.inr ⟨_, rfl⟩
  rw [Run.exec_bind_of_ok (Run.exec_get e)]
  cases hline : Cookie.deletion name path domain e.now with
  | error fault => exact Or.inr ⟨_, rfl⟩
  | ok line =>
      cases hrun : Text.unencodableRun? line.toList with
      | some run =>
          have hlatin : Run.exec (Run.requireLatin1 line) e = (.error (.unencodable run), e) := by
            unfold Run.requireLatin1
            rw [hrun]
            rfl
          exact Or.inr ⟨_, Run.exec_bind_of_error hlatin⟩
      | none =>
          have hlatin : Run.exec (Run.requireLatin1 line) e = (.ok (), e) := by
            unfold Run.requireLatin1
            rw [hrun]
            rfl
          exact Or.inl ⟨line, rfl, Run.exec_bind_of_ok hlatin⟩

/-- Lines that are added one after another are added together. -/
theorem withExpired_withExpired (earlier later : List String) (e : Exchange) :
    withExpired later (withExpired earlier e) = withExpired (earlier ++ later) e := by
  unfold withExpired
  rw [List.map_append, List.append_assoc]

/-- Cookies that are all expired have one header line each, in their order. -/
theorem exists_lines_of_inOrder {blocks : List (List Call)}
    (h : Run.InOrder (fun name => Run.expireCookie name path domain) () names e blocks e') :
    ∃ lines, (names.map fun name => Cookie.deletion name path domain e.now) = lines.map .ok ∧
      e' = withExpired lines e := by
  induction h with
  | nil e =>
      refine ⟨[], rfl, ?_⟩
      unfold withExpired
      simp
  | @cons name rest e e₁ e₂ calls blocks hname hcalls hrest ih =>
      rcases exec_expireCookie name path domain e with ⟨line, hline, hexpired⟩ | ⟨fault, hstop⟩
      · cases hexpired.symm.trans hname
        obtain ⟨lines, hlines, rfl⟩ := ih
        refine ⟨line :: lines, ?_, withExpired_withExpired [line] lines e⟩
        rw [List.map_cons, List.map_cons, hline, ← hlines]
        rfl
      · cases hstop.symm.trans hname

end Cookies

end Handler

end SignOut
