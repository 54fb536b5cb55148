import SignOut.Proofs.Frame

/-!
# The course of a sign-out

A recognised request meets the collaborators of the stage in one fixed order: the handlers from
first to last, the matchers of the routes up to the first that selects the request, and the one
success handler that this leaves.  The relations below say this without the stage: what it is for
a list of parts to be run one after another, and for routes to select a success handler.  Main
statements: a composite handler and a dispatch over routes complete iff they follow their course
to its end, and they stop iff one of their parts does, behind the full effect of the parts ahead
of it and ahead of all others.
-/

namespace SignOut

namespace Run

variable {ι α : Type}

/-- Parts that are run one after another with the same result, and the calls that each of them
records. -/
inductive InOrder (act : ι → Run α) (result : α) :
    List ι → Exchange → List (List Call) → Exchange → Prop
  | nil (e : Exchange) : InOrder act result [] e [] e
  | cons {part : ι} {rest : List ι} {e e₁ e₂ : Exchange} {calls : List Call}
      {blocks : List (List Call)} (hpart : exec (act part) e = (.ok result, e₁))
      (hcalls : e₁.calls = e.calls ++ calls) (hrest : InOrder act result rest e₁ blocks e₂) :
      InOrder act result (part :: rest) e (calls :: blocks) e₂

namespace InOrder

variable {act : ι → Run α} {result : α} {parts : List ι} {e e' : Exchange}
  {blocks : List (List Call)}

/-- Each part has its block of calls, and the blocks make up all that is recorded. -/
theorem calls_eq (h : InOrder act result parts e blocks e') :
    blocks.length = parts.length ∧ e'.calls = e.calls ++ blocks.flatten := by
  induction h with
  | nil e => simp
  | cons hpart hcalls hrest ih =>
      obtain ⟨hlength, hflatten⟩ := ih
      refine ⟨by simp [hlength], ?_⟩
      rw [hflatten, hcalls, List.flatten_cons, List.append_assoc]

/-- A frame that holds of every part holds of all of them in order. -/
theorem rel {F : Frame} (h : InOrder act result parts e blocks e')
    (hact : ∀ part ∈ parts, F.Holds (act part)) : F.Rel e e' := by
  induction h with
  | nil e => exact F.refl e
  | @cons part rest e e₁ e₂ calls blocks hpart hcalls hrest ih =>
      have hfirst : F.Rel e e₁ := (hact part List.mem_cons_self).rel hpart
      exact F.trans hfirst (ih fun part hmem => hact part (List.mem_cons_of_mem _ hmem))

/-- Parts in order are those up to any point and then the others. -/
theorem exists_of_append {before after : List ι}
    (h : InOrder act result (before ++ after) e blocks e') :
    ∃ earlier e₁ later, InOrder act result before e earlier e₁ ∧
      InOrder act result after e₁ later e' := by
  induction before generalizing e blocks with
  | nil => exact ⟨[], e, blocks, .nil e, h⟩
  | cons part rest ih =>
      cases h with
      | cons hpart hcalls hrest =>
          obtain ⟨earlier, e₁, later, hearlier, hlater⟩ := ih hrest
          exact ⟨_, e₁, later, .cons hpart hcalls hearlier, hlater⟩

end InOrder

end Run

/-- A run of the parts only ever adds to the recorded calls. -/
theorem Frame.exists_calls_eq {α : Type} {action : Run α} (h : Frame.onward.Holds action)
    {e e₁ : Exchange} {result : Except Fault α} (hrun : Run.exec action e = (result, e₁)) :
    ∃ calls, e₁.calls = e.calls ++ calls := by
  obtain ⟨⟨calls, heq⟩, -⟩ := h.rel hrun
  exact ⟨calls, heq.symm⟩

/-! ## Parts one after another -/

namespace Run

variable {ι : Type} {act : ι → Run PUnit} {parts : List ι} {e e' : Exchange} {fault : Fault}

/-- Parts that are run one after another complete iff each of them does. -/
theorem exec_forM_eq_ok_iff (hact : ∀ part, Frame.onward.Holds (act part)) :
    exec (parts.forM act) e = (.ok (), e') ↔ ∃ blocks, InOrder act () parts e blocks e' := by
  induction parts generalizing e with
  | nil =>
      constructor
      · intro h
        cases h
        exact ⟨[], .nil _⟩
      · rintro ⟨blocks, h⟩
        cases h
        rfl
  | cons part rest ih =>
      refine exec_bind_eq_ok_iff.trans ?_
      constructor
      · rintro ⟨u, e₁, hfirst, hrest⟩
        obtain ⟨calls, hcalls⟩ := Frame.exists_calls_eq (hact part) hfirst
        obtain ⟨blocks, hblocks⟩ := ih.mp hrest
        exact ⟨calls :: blocks, .cons hfirst hcalls hblocks⟩
      · rintro ⟨blocks, h⟩
        cases h with
        | cons hfirst hcalls hrest => exact ⟨(), _, hfirst, ih.mpr ⟨_, hrest⟩⟩

/-- Parts that are run one after another stop iff one of them does, after all those before it and
ahead of all those behind it. -/
theorem exec_forM_eq_error_iff (hact : ∀ part, Frame.onward.Holds (act part)) :
    exec (parts.forM act) e = (.error fault, e') ↔
      ∃ before part after blocks e₁, parts = before ++ part :: after ∧
        InOrder act () before e blocks e₁ ∧ exec (act part) e₁ = (.error fault, e') := by
  induction parts generalizing e with
  | nil =>
      constructor
      · intro h
        cases h
      · rintro ⟨before, part, after, -, -, h, -⟩
        simp at h
  | cons part rest ih =>
      refine exec_bind_eq_error_iff.trans ?_
      constructor
      · rintro (hfirst | ⟨u, e₁, hfirst, hrest⟩)
        · exact ⟨[], part, rest, [], e, rfl, .nil e, hfirst⟩
        · obtain ⟨calls, hcalls⟩ := Frame.exists_calls_eq (hact part) hfirst
          obtain ⟨before, stopped, after, blocks, e₂, rfl, hbefore, hstopped⟩ := ih.mp hrest
          exact ⟨part :: before, stopped, after, calls :: blocks, e₂, rfl,
            .cons hfirst hcalls hbefore, hstopped⟩
      · rintro ⟨before, stopped, after, blocks, e₁, heq, hbefore, hstopped⟩
        cases hbefore with
        | nil =>
            obtain ⟨rfl, rfl⟩ := List.cons.inj heq
            exact Or.inl hstopped
        | cons hfirst hcalls hbefore =>
            obtain ⟨rfl, rfl⟩ := List.cons.inj heq
            exact Or.inr ⟨(), _, hfirst, ih.mpr ⟨_, _, _, _, _, rfl, hbefore, hstopped⟩⟩

end Run

/-! ## Handlers in order -/

namespace Handler

variable {principal : Option Principal} {handlers : List Handler} {e e' : Exchange}
  {fault : Fault}

/-- Handlers that run one after another for the same principal, each to its end. -/
abbrev Handled (principal : Option Principal) :=
  Run.InOrder (Handler.perform principal) ()

/-- A composite handler runs its handlers one after another. -/
theorem perform_many (principal : Option Principal) (handlers : List Handler) :
    perform principal (.many handlers) = handlers.forM (perform principal) := by
  induction handlers with
  | nil => rfl
  | cons handler rest ih =>
      show (do perform principal handler; perform principal (.many rest)) = _
      rw [ih]
      rfl

/-- A composite handler completes iff its handlers do, one after another. -/
theorem exec_many_eq_ok_iff :
    Run.exec (perform principal (.many handlers)) e = (.ok (), e') ↔
      ∃ blocks, Handled principal handlers e blocks e' := by
  rw [perform_many]
  exact Run.exec_forM_eq_ok_iff fun handler => Frame.onward_holds_perform handler principal

/-- A composite handler stops iff one of its handlers does, after all those before it and ahead
of all those behind it. -/
theorem exec_many_eq_error_iff :
    Run.exec (perform principal (.many handlers)) e = (.error fault, e') ↔
      ∃ before handler after blocks e₁, handlers = before ++ handler :: after ∧
        Handled principal before e blocks e₁ ∧
        Run.exec (handler.perform principal) e₁ = (.error fault, e') := by
  rw [perform_many]
  exact Run.exec_forM_eq_error_iff fun handler => Frame.onward_holds_perform handler principal

end Handler

/-! ## Routes in order -/

namespace Success

/-- Routes whose matchers are asked one after another and all decline the request. -/
abbrev Declined :=
  Run.InOrder (fun route : Matcher × Success => route.1.ask) false

/-- The success handler that routes select: that of the first route whose matcher selects the
request, after those before it declined, or the fallback, after all declined.  The calls of the
matchers that are asked stand in one block each. -/
inductive Chosen (fallback : Success) :
    List (Matcher × Success) → Exchange → Success → List (List Call) → Exchange → Prop
  | route {before after : List (Matcher × Success)} {matcher : Matcher} {target : Success}
      {e e₁ e₂ : Exchange} {tried : List (List Call)} {calls : List Call}
      (hbefore : Declined before e tried e₁)
      (hmatcher : Run.exec matcher.ask e₁ = (.ok true, e₂))
      (hcalls : e₂.calls = e₁.calls ++ calls) :
      Chosen fallback (before ++ (matcher, target) :: after) e target (tried ++ [calls]) e₂
  | fallback {routes : List (Matcher × Success)} {e e₁ : Exchange} {tried : List (List Call)}
      (hroutes : Declined routes e tried e₁) : Chosen fallback routes e fallback tried e₁

namespace Chosen

variable {fallback chosen : Success} {routes : List (Matcher × Success)} {e e' : Exchange}
  {tried : List (List Call)}

theorem calls_eq (h : Chosen fallback routes e chosen tried e') :
    e'.calls = e.calls ++ tried.flatten := by
  cases h with
  | route hbefore hmatcher hcalls =>
      rw [hcalls, hbefore.calls_eq.2]
      simp
  | fallback hroutes => exact hroutes.calls_eq.2

theorem rel {F : Frame} (h : Chosen fallback routes e chosen tried e') : F.Rel e e' := by
  cases h with
  | route hbefore hmatcher hcalls =>
      have htried := hbefore.rel fun route _ => F.holds_ask route.1
      exact F.trans htried ((F.holds_ask _).rel hmatcher)
  | fallback hroutes => exact hroutes.rel fun route _ => F.holds_ask route.1

/-- What routes select is the fallback or the success handler of one of them. -/
theorem eq_fallback_or_mem (h : Chosen fallback routes e chosen tried e') :
    chosen = fallback ∨ ∃ matcher, (matcher, chosen) ∈ routes := by
  cases h with
  | @route before after matcher _ _ _ _ _ _ hbefore hmatcher hcalls =>
      exact Or.inr ⟨matcher, List.mem_append_right before List.mem_cons_self⟩
  | fallback hroutes => exact Or.inl rfl

/-- The first route can select the request itself. -/
theorem first {matcher : Matcher} {target : Success} {calls : List Call}
    (hmatcher : Run.exec matcher.ask e = (.ok true, e')) (hcalls : e'.calls = e.calls ++ calls) :
    Chosen fallback ((matcher, target) :: routes) e target [calls] e' := by
  have hroute : Chosen fallback ([] ++ (matcher, target) :: routes) e target ([] ++ [calls]) e' :=
    .route (.nil e) hmatcher hcalls
  exact hroute

/-- A route that declines can be put in front. -/
theorem cons {route : Matcher × Success} {e₀ : Exchange} {calls : List Call}
    (hroute : Run.exec route.1.ask e₀ = (.ok false, e)) (hcalls : e.calls = e₀.calls ++ calls)
    (h : Chosen fallback routes e chosen tried e') :
    Chosen fallback (route :: routes) e₀ chosen (calls :: tried) e' := by
  cases h with
  | @route before after matcher _ _ e₁ _ tried calls' hbefore hmatcher hcalls' =>
      have hall : Chosen fallback ((route :: before) ++ (matcher, chosen) :: after) e₀ chosen
          ((calls :: tried) ++ [calls']) e' :=
        .route (.cons hroute hcalls hbefore) hmatcher hcalls'
      exact hall
  | fallback hroutes => exact .fallback (.cons hroute hcalls hroutes)

/-- Without routes the fallback is selected. -/
theorem of_nil (h : Chosen fallback [] e chosen tried e') :
    (chosen, e') = (fallback, e) := by
  generalize hroutes : ([] : List (Matcher × Success)) = routes at h
  cases h with
  | route hbefore hmatcher hcalls => simp at hroutes
  | fallback hall =>
      cases hroutes
      cases hall
      rfl

/-- The first of several routes selects the request itself, or it declines and the others
decide. -/
theorem of_cons {matcher : Matcher} {target : Success}
    (h : Chosen fallback ((matcher, target) :: routes) e chosen tried e') :
    (chosen = target ∧ Run.exec matcher.ask e = (.ok true, e')) ∨
      ∃ e₁ tried', Run.exec matcher.ask e = (.ok false, e₁) ∧
        Chosen fallback routes e₁ chosen tried' e' := by
  generalize hroutes : (matcher, target) :: routes = all at h
  cases h with
  | @route before after found _ _ e₁ _ tried calls hbefore hmatcher hcalls =>
      cases hbefore with
      | nil =>
          obtain ⟨hroute, -⟩ := List.cons.inj hroutes
          cases hroute
          exact Or.inl ⟨rfl, hmatcher⟩
      | cons hfirst hcalls' hbefore =>
          obtain ⟨hroute, rfl⟩ := List.cons.inj hroutes
          cases hroute
          exact Or.inr ⟨_, _, hfirst, .route hbefore hmatcher hcalls⟩
  | fallback hall =>
      cases hroutes
      cases hall with
      | cons hfirst hcalls hrest => exact Or.inr ⟨_, _, hfirst, .fallback hrest⟩

end Chosen

/-- Routes complete iff they select a success handler and that completes. -/
theorem exec_routed_eq_ok_iff {principal : Option Principal} {routes : List (Matcher × Success)}
    {fallback : Success} {e e' : Exchange} :
    Run.exec (give principal (.routed routes fallback)) e = (.ok (), e') ↔
      ∃ chosen tried e₁, Chosen fallback routes e chosen tried e₁ ∧
        Run.exec (chosen.give principal) e₁ = (.ok (), e') := by
  induction routes generalizing e with
  | nil =>
      constructor
      · intro h
        exact ⟨fallback, [], e, .fallback (.nil e), h⟩
      · rintro ⟨chosen, tried, e₁, hchosen, h⟩
        cases Chosen.of_nil hchosen
        exact h
  | cons route rest ih =>
      obtain ⟨matcher, target⟩ := route
      refine Run.exec_bind_eq_ok_iff.trans ?_
      constructor
      · rintro ⟨selected, e₁, hmatcher, hnext⟩
        obtain ⟨calls, hcalls⟩ :=
          Frame.exists_calls_eq (Frame.onward.holds_ask matcher) hmatcher
        cases selected with
        | true =>
            exact ⟨target, [calls], e₁, .first hmatcher hcalls, hnext⟩
        | false =>
            obtain ⟨chosen, tried, e₂, hchosen, h⟩ := ih.mp hnext
            exact ⟨chosen, calls :: tried, e₂, hchosen.cons hmatcher hcalls, h⟩
      · rintro ⟨chosen, tried, e₁, hchosen, h⟩
        rcases hchosen.of_cons with ⟨rfl, hmatcher⟩ | ⟨e₂, tried', hmatcher, hrest⟩
        · exact ⟨true, e₁, hmatcher, h⟩
        · exact ⟨false, e₂, hmatcher, ih.mpr ⟨chosen, tried', e₁, hrest, h⟩⟩

/-- Routes stop iff a matcher does after those before it declined, or the success handler that
they select does. -/
theorem exec_routed_eq_error_iff {principal : Option Principal}
    {routes : List (Matcher × Success)} {fallback : Success} {e e' : Exchange} {fault : Fault} :
    Run.exec (give principal (.routed routes fallback)) e = (.error fault, e') ↔
      (∃ before matcher target after tried e₁, routes = before ++ (matcher, target) :: after ∧
        Declined before e tried e₁ ∧ Run.exec matcher.ask e₁ = (.error fault, e')) ∨
      ∃ chosen tried e₁, Chosen fallback routes e chosen tried e₁ ∧
        Run.exec (chosen.give principal) e₁ = (.error fault, e') := by
  induction routes generalizing e with
  | nil =>
      constructor
      · intro h
        exact Or.inr ⟨fallback, [], e, .fallback (.nil e), h⟩
      · rintro (⟨before, matcher, target, after, tried, e₁, heq, -⟩ |
          ⟨chosen, tried, e₁, hchosen, h⟩)
        · simp at heq
        · cases Chosen.of_nil hchosen
          exact h
  | cons route rest ih =>
      obtain ⟨matcher, target⟩ := route
      refine Run.exec_bind_eq_error_iff.trans ?_
      constructor
      · rintro (hmatcher | ⟨selected, e₁, hmatcher, hnext⟩)
        · exact Or.inl ⟨[], matcher, target, rest, [], e, rfl, .nil e, hmatcher⟩
        obtain ⟨calls, hcalls⟩ :=
          Frame.exists_calls_eq (Frame.onward.holds_ask matcher) hmatcher
        cases selected with
        | true =>
            exact Or.inr ⟨target, [calls], e₁, .first hmatcher hcalls, hnext⟩
        | false =>
            rcases ih.mp hnext with
              ⟨before, stopped, target', after, tried, e₂, rfl, hbefore, h⟩ |
              ⟨chosen, tried, e₂, hchosen, h⟩
            · exact Or.inl ⟨(matcher, target) :: before, stopped, target', after, calls :: tried,
                e₂, rfl, .cons hmatcher hcalls hbefore, h⟩
            · exact Or.inr ⟨chosen, calls :: tried, e₂, hchosen.cons hmatcher hcalls, h⟩
      · rintro (⟨before, stopped, target', after, tried, e₁, heq, hbefore, h⟩ |
          ⟨chosen, tried, e₁, hchosen, h⟩)
        · cases hbefore with
          | nil =>
              obtain ⟨hroute, rfl⟩ := List.cons.inj heq
              cases hroute
              exact Or.inl h
          | cons hfirst hcalls hbefore =>
              obtain ⟨hroute, rfl⟩ := List.cons.inj heq
              cases hroute
              exact Or.inr ⟨false, _, hfirst,
                ih.mpr (Or.inl ⟨_, stopped, target', after, _, _, rfl, hbefore, h⟩)⟩
        · rcases hchosen.of_cons with ⟨rfl, hmatcher⟩ | ⟨e₂, tried', hmatcher, hrest⟩
          · exact Or.inr ⟨true, e₁, hmatcher, h⟩
          · exact Or.inr ⟨false, e₂, hmatcher, ih.mpr (Or.inr ⟨chosen, tried', e₁, hrest, h⟩)⟩

end Success

end SignOut
