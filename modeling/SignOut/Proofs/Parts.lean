import SignOut.Proofs.Interruption
import SignOut.Proofs.Recognition

/-!
# The parts of a stage

Matchers, handlers and success handlers are combined to any depth, but all work is done by single
ones at the ends of the combinations.  These are the parts of a stage.  A combination adds nothing
to what its parts do but an order, and possibly an early end; so a run meets the parts one after
another, each in the exchange that those before it left.  Main statement: a stage stops iff it
meets a part that stops, with the fault of that part and in the exchange that it leaves, or else
because the target of a request that it selected cannot be read.
-/

namespace SignOut

/-! ## The ends of combinations -/

namespace Formula

variable {α : Type}

mutual

/-- The leaves of a combination from left to right. -/
def leaves : Formula α → List α
  | .atom a => [a]
  | .all parts => leavesOf parts
  | .any parts => leavesOf parts
  | .negation part => leaves part

/-- The leaves of several combinations from left to right. -/
def leavesOf : List (Formula α) → List α
  | [] => []
  | part :: rest => leaves part ++ leavesOf rest

end

theorem mem_leavesOf {a : α} {parts : List (Formula α)} :
    a ∈ leavesOf parts ↔ ∃ part ∈ parts, a ∈ part.leaves := by
  induction parts with
  | nil => simp [leavesOf]
  | cons part rest ih => simp [leavesOf, ih]

/-- What holds of a combination as soon as it holds of its parts holds of every combination. -/
@[elab_as_elim]
theorem induction {motive : Formula α → Prop} (atom : ∀ a, motive (.atom a))
    (all : ∀ parts, (∀ part ∈ parts, motive part) → motive (.all parts))
    (any : ∀ parts, (∀ part ∈ parts, motive part) → motive (.any parts))
    (negation : ∀ part, motive part → motive (.negation part)) (formula : Formula α) :
    motive formula := by
  refine @Formula.rec α motive (fun parts => ∀ part ∈ parts, motive part) atom all any negation
    ?_ ?_ formula
  · intro part hmem
    cases hmem
  · intro first rest hfirst hrest part hmem
    rcases List.mem_cons.mp hmem with rfl | hmem
    · exact hfirst
    · exact hrest part hmem

end Formula

namespace Chain

variable {α : Type}

theorem mem_actionsAll {a : α} {parts : List (Chain α)} :
    a ∈ actionsAll parts ↔ ∃ part ∈ parts, a ∈ part.actions := by
  induction parts with
  | nil => simp [actionsAll]
  | cons part rest ih => simp [actionsAll, ih]

theorem actionsAll_append (parts others : List (Chain α)) :
    actionsAll (parts ++ others) = actionsAll parts ++ actionsAll others := by
  induction parts with
  | nil => rfl
  | cons part rest ih =>
      show part.actions ++ actionsAll (rest ++ others) = part.actions ++ actionsAll rest ++ _
      rw [ih, List.append_assoc]

end Chain

namespace Dispatch

variable {μ α : Type}

/-- What holds of a dispatch as soon as it holds of what it dispatches to holds of every
dispatch. -/
@[elab_as_elim]
theorem induction {motive : Dispatch μ α → Prop} (answer : ∀ a, motive (.answer a))
    (routed : ∀ routes fallback, (∀ route ∈ routes, motive route.2) → motive fallback →
      motive (.routed routes fallback)) :
    (dispatch : Dispatch μ α) → motive dispatch
  | .answer a => answer a
  | .routed routes fallback =>
      routed routes fallback (fun route _hmem => induction answer routed route.2)
        (induction answer routed fallback)
termination_by dispatch => sizeOf dispatch
decreasing_by
  · have hroute := List.sizeOf_lt_of_mem _hmem
    have htarget : sizeOf route.2 < sizeOf route := by
      obtain ⟨matcher, target⟩ := route
      simp
    simp only [Dispatch.routed.sizeOf_spec]
    omega
  · simp only [Dispatch.routed.sizeOf_spec]
    omega

theorem mem_answersOf {a : α} {routes : List (μ × Dispatch μ α)} :
    a ∈ answersOf routes ↔ ∃ route ∈ routes, a ∈ route.2.answers := by
  induction routes with
  | nil => simp [answersOf]
  | cons route rest ih => simp [answersOf, ih]

end Dispatch

/-! ## Parts -/

/-- A single matcher, handler or success handler. -/
inductive Part where
  | matcher (atom : Matcher.Atom)
  | handler (action : Handler.Action)
  | success (answer : Success.Answer)

/-- What a part does for a principal when a stage comes to it. -/
def Part.run (principal : Option Principal) : Part → Run Unit
  | .matcher atom => do
      let _ ← atom.ask
      return ()
  | .handler action => action.perform principal
  | .success answer => answer.give principal

/-- The parts of a matcher. -/
def Matcher.toParts (matcher : Matcher) : List Part :=
  matcher.leaves.map .matcher

/-- The parts of a handler. -/
def Handler.toParts (handler : Handler) : List Part :=
  handler.actions.map .handler

namespace Success

mutual

/-- The parts of a success handler: the matchers of its routes and the answers at its ends. -/
def toParts : Success → List Part
  | .answer a => [.success a]
  | .routed routes fallback => partsOf routes ++ toParts fallback

/-- The parts of routes. -/
def partsOf : List (Matcher × Success) → List Part
  | [] => []
  | (matcher, target) :: rest => matcher.toParts ++ toParts target ++ partsOf rest

end

theorem mem_partsOf {part : Part} {routes : List (Matcher × Success)} :
    part ∈ partsOf routes ↔ ∃ route ∈ routes, part ∈ route.1.toParts ∨ part ∈ route.2.toParts := by
  induction routes with
  | nil => simp [partsOf]
  | cons route rest ih => simp [partsOf, ih, or_assoc]

end Success

/-- The parts of the stage of a configuration. -/
def Configuration.parts (c : Configuration) : List Part :=
  c.matcher.toParts ++ c.handlers.flatMap Handler.toParts ++
    Success.toParts (.routed c.routes c.fallback)

/-- The parts of a filter. -/
def StageFilter.parts (filter : StageFilter) : List Part :=
  filter.bare.configuration.parts

@[simp] theorem Matcher.mem_toParts {matcher : Matcher} {part : Part} :
    part ∈ matcher.toParts ↔ ∃ atom ∈ matcher.leaves, part = .matcher atom := by
  simp [Matcher.toParts, eq_comm]

@[simp] theorem Handler.mem_toParts {handler : Handler} {part : Part} :
    part ∈ handler.toParts ↔ ∃ action ∈ handler.actions, part = .handler action := by
  simp [Handler.toParts, eq_comm]

theorem Configuration.mem_parts {c : Configuration} {part : Part} :
    part ∈ c.parts ↔ part ∈ c.matcher.toParts ∨ (∃ handler ∈ c.handlers, part ∈ handler.toParts) ∨
      part ∈ Success.toParts (.routed c.routes c.fallback) := by
  simp [Configuration.parts]

/-- The answers at the ends of a success handler are among its parts. -/
theorem Success.mem_toParts_of_mem_answers {success : Success} {a : Answer}
    (h : a ∈ success.answers) : .success a ∈ success.toParts := by
  induction success using Dispatch.induction with
  | answer b =>
      rw [List.mem_singleton.mp h]
      exact List.mem_singleton_self _
  | routed routes fallback ihroutes ihfallback =>
      rcases List.mem_append.mp h with h | h
      · obtain ⟨route, hroute, ha⟩ := Dispatch.mem_answersOf.mp h
        exact List.mem_append_left _
          (mem_partsOf.mpr ⟨route, hroute, Or.inr (ihroutes route hroute ha)⟩)
      · exact List.mem_append_right _ (ihfallback h)

/-- No single handler is among the parts of a success handler. -/
theorem Success.eq_of_mem_toParts {success : Success} {part : Part} (h : part ∈ success.toParts) :
    (∃ atom, part = .matcher atom) ∨ ∃ answer, part = .success answer := by
  induction success using Dispatch.induction with
  | answer a => exact Or.inr ⟨a, List.mem_singleton.mp h⟩
  | routed routes fallback ihroutes ihfallback =>
      rcases List.mem_append.mp h with h | h
      · obtain ⟨route, hroute, hmatcher | htarget⟩ := mem_partsOf.mp h
        · obtain ⟨atom, -, rfl⟩ := Matcher.mem_toParts.mp hmatcher
          exact Or.inl ⟨atom, rfl⟩
        · exact ihroutes route hroute htarget
      · exact ihfallback h

/-- The leaves of the request matcher are parts of the stage. -/
theorem Configuration.matcher_mem_parts {c : Configuration} {atom : Matcher.Atom}
    (h : atom ∈ c.matcher.leaves) : .matcher atom ∈ c.parts :=
  mem_parts.mpr (Or.inl (Matcher.mem_toParts.mpr ⟨atom, h, rfl⟩))

/-- The single handlers of the chain are parts of the stage. -/
theorem Configuration.handler_mem_parts {c : Configuration} {handler : Handler}
    {action : Handler.Action} (hhandler : handler ∈ c.handlers) (h : action ∈ handler.actions) :
    .handler action ∈ c.parts :=
  mem_parts.mpr
    (Or.inr (Or.inl ⟨handler, hhandler, Handler.mem_toParts.mpr ⟨action, h, rfl⟩⟩))

theorem Configuration.mem_parts_of_mem_chain {c : Configuration} {part : Part}
    (h : part ∈ Handler.toParts (.many c.handlers)) : part ∈ c.parts := by
  obtain ⟨action, haction, rfl⟩ := Handler.mem_toParts.mp h
  obtain ⟨handler, hhandler, haction⟩ := Chain.mem_actionsAll.mp haction
  exact handler_mem_parts hhandler haction

/-- The parts of a success handler that can be selected are parts of the stage. -/
theorem Configuration.mem_parts_of_selectable {c : Configuration} {success : Success} {part : Part}
    (hsuccess : success = c.fallback ∨ ∃ matcher, (matcher, success) ∈ c.routes)
    (h : part ∈ success.toParts) : part ∈ c.parts := by
  refine mem_parts.mpr (Or.inr (Or.inr ?_))
  rcases hsuccess with rfl | ⟨matcher, hroute⟩
  · exact List.mem_append_right _ h
  · exact List.mem_append_left _ (Success.mem_partsOf.mpr ⟨_, hroute, Or.inr h⟩)

/-! ## Asking until the answer is known -/

namespace Formula

variable {α ι : Type} {m : Type → Type} [Monad m]

/-- Ask parts one after another as long as each gives the same answer. -/
def askWhile (answer : Bool) (act : ι → m Bool) : List ι → m Bool
  | [] => pure answer
  | part :: rest => do
      let given ← act part
      if given = answer then askWhile answer act rest else pure given

/-- A conjunction asks its parts as long as they agree. -/
theorem evalAll_eq_askWhile (leaf : α → m Bool) (parts : List (Formula α)) :
    evalAll leaf parts = askWhile true (eval leaf) parts := by
  induction parts with
  | nil => rfl
  | cons part rest ih =>
      refine congrArg (part.eval leaf >>= ·) (funext fun given => ?_)
      cases given with
      | true => exact ih
      | false => rfl

/-- A disjunction asks its parts as long as they decline. -/
theorem evalAny_eq_askWhile (leaf : α → m Bool) (parts : List (Formula α)) :
    evalAny leaf parts = askWhile false (eval leaf) parts := by
  induction parts with
  | nil => rfl
  | cons part rest ih =>
      refine congrArg (part.eval leaf >>= ·) (funext fun given => ?_)
      cases given with
      | true => rfl
      | false => exact ih

end Formula

namespace Run

open Formula (askWhile)

variable {ι : Type}

variable {act : ι → Run Bool} {answer : Bool} {parts : List ι} {e e' : Exchange} {fault : Fault}

/-- Asking parts stops iff one of them does, after all those before it gave the same answer. -/
theorem exec_askWhile_eq_error_iff (hact : ∀ part, Frame.onward.Holds (act part)) :
    exec (askWhile answer act parts) e = (.error fault, e') ↔
      ∃ before part after blocks e₁, parts = before ++ part :: after ∧
        InOrder act answer before e blocks e₁ ∧ exec (act part) e₁ = (.error fault, e') := by
  induction parts generalizing e with
  | nil =>
      constructor
      · intro h
        cases h
      · rintro ⟨before, part, after, -, -, h, -⟩
        simp at h
  | cons part rest ih =>
      refine exec_bind_eq_error_iff.trans ?_
      constructor
      · rintro (hfirst | ⟨given, e₁, hfirst, hrest⟩)
        · exact ⟨[], part, rest, [], e, rfl, .nil e, hfirst⟩
        by_cases hgiven : given = answer
        · rw [if_pos hgiven] at hrest
          subst hgiven
          obtain ⟨calls, hcalls⟩ := Frame.exists_calls_eq (hact part) hfirst
          obtain ⟨before, stopped, after, blocks, e₂, rfl, hbefore, hstopped⟩ := ih.mp hrest
          exact ⟨part :: before, stopped, after, calls :: blocks, e₂, rfl,
            .cons hfirst hcalls hbefore, hstopped⟩
        · rw [if_neg hgiven] at hrest
          cases hrest
      · rintro ⟨before, stopped, after, blocks, e₁, heq, hbefore, hstopped⟩
        cases hbefore with
        | nil =>
            obtain ⟨rfl, rfl⟩ := List.cons.inj heq
            exact Or.inl hstopped
        | cons hfirst hcalls hbefore =>
            obtain ⟨rfl, rfl⟩ := List.cons.inj heq
            refine Or.inr ⟨answer, _, hfirst, ?_⟩
            rw [if_pos rfl]
            exact ih.mpr ⟨_, _, _, _, _, rfl, hbefore, hstopped⟩

end Run

namespace Formula

variable {α : Type} {leaf : α → Run Bool} {parts : List (Formula α)} {e e' : Exchange}
  {fault : Fault}

/-- The leaves that an evaluation asks, each in the exchange in which it is asked: a part of a
conjunction is evaluated once all parts ahead of it agreed, a part of a disjunction once all parts
ahead of it declined. -/
inductive Asks (leaf : α → Run Bool) : Formula α → Exchange → α → Exchange → Prop
  | atom (a : α) (e : Exchange) : Asks leaf (.atom a) e a e
  | all {before after : List (Formula α)} {part : Formula α} {blocks : List (List Call)}
      {e e₁ e₂ : Exchange} {a : α} (hbefore : Run.InOrder (eval leaf) true before e blocks e₁)
      (hpart : Asks leaf part e₁ a e₂) : Asks leaf (.all (before ++ part :: after)) e a e₂
  | any {before after : List (Formula α)} {part : Formula α} {blocks : List (List Call)}
      {e e₁ e₂ : Exchange} {a : α} (hbefore : Run.InOrder (eval leaf) false before e blocks e₁)
      (hpart : Asks leaf part e₁ a e₂) : Asks leaf (.any (before ++ part :: after)) e a e₂
  | negation {part : Formula α} {e e₁ : Exchange} {a : α} (hpart : Asks leaf part e a e₁) :
      Asks leaf (.negation part) e a e₁

theorem Asks.mem_leaves {formula : Formula α} {e₁ : Exchange} {a : α}
    (h : formula.Asks leaf e a e₁) : a ∈ formula.leaves := by
  induction h with
  | atom a e => exact List.mem_singleton_self a
  | all hbefore hpart ih =>
      exact mem_leavesOf.mpr ⟨_, List.mem_append_right _ List.mem_cons_self, ih⟩
  | any hbefore hpart ih =>
      exact mem_leavesOf.mpr ⟨_, List.mem_append_right _ List.mem_cons_self, ih⟩
  | negation hpart ih => exact ih

/-- A frame that holds of the leaves holds from the start of an evaluation to each leaf. -/
theorem Asks.rel {F : Frame} {formula : Formula α} {e₁ : Exchange} {a : α}
    (h : formula.Asks leaf e a e₁) (hleaf : ∀ a, F.Holds (leaf a)) : F.Rel e e₁ := by
  induction h with
  | atom a e => exact F.refl e
  | all hbefore hpart ih => exact F.trans (hbefore.rel fun _ _ => Frame.holds_eval hleaf _) ih
  | any hbefore hpart ih => exact F.trans (hbefore.rel fun _ _ => Frame.holds_eval hleaf _) ih
  | negation hpart ih => exact ih

/-- An evaluation stops iff it asks a leaf that stops. -/
theorem exec_eval_eq_error_iff (hleaf : ∀ a, Frame.onward.Holds (leaf a)) {formula : Formula α} :
    Run.exec (formula.eval leaf) e = (.error fault, e') ↔
      ∃ a e₁, formula.Asks leaf e a e₁ ∧ Run.exec (leaf a) e₁ = (.error fault, e') := by
  have hact : ∀ part : Formula α, Frame.onward.Holds (part.eval leaf) :=
    Frame.holds_eval hleaf
  induction formula using Formula.induction generalizing e with
  | atom a =>
      constructor
      · intro h
        exact ⟨a, e, .atom a e, h⟩
      · rintro ⟨a', e₁, hasks, h⟩
        cases hasks
        exact h
  | all parts ih =>
      show Run.exec (evalAll leaf parts) e = (.error fault, e') ↔ _
      rw [evalAll_eq_askWhile, Run.exec_askWhile_eq_error_iff hact]
      constructor
      · rintro ⟨before, part, after, blocks, e₁, rfl, hbefore, hpart⟩
        obtain ⟨a, e₂, hasks, h⟩ :=
          (ih part (List.mem_append_right _ List.mem_cons_self)).mp hpart
        exact ⟨a, e₂, .all hbefore hasks, h⟩
      · rintro ⟨a, e₂, hasks, h⟩
        cases hasks with
        | @all before after part blocks _ e₁ _ _ hbefore hasks =>
            have hpart := (ih part (List.mem_append_right _ List.mem_cons_self)).mpr
              ⟨a, e₂, hasks, h⟩
            exact ⟨before, part, after, blocks, e₁, rfl, hbefore, hpart⟩
  | any parts ih =>
      show Run.exec (evalAny leaf parts) e = (.error fault, e') ↔ _
      rw [evalAny_eq_askWhile, Run.exec_askWhile_eq_error_iff hact]
      constructor
      · rintro ⟨before, part, after, blocks, e₁, rfl, hbefore, hpart⟩
        obtain ⟨a, e₂, hasks, h⟩ :=
          (ih part (List.mem_append_right _ List.mem_cons_self)).mp hpart
        exact ⟨a, e₂, .any hbefore hasks, h⟩
      · rintro ⟨a, e₂, hasks, h⟩
        cases hasks with
        | @any before after part blocks _ e₁ _ _ hbefore hasks =>
            have hpart := (ih part (List.mem_append_right _ List.mem_cons_self)).mpr
              ⟨a, e₂, hasks, h⟩
            exact ⟨before, part, after, blocks, e₁, rfl, hbefore, hpart⟩
  | negation part ih =>
      have hnegation : Run.exec ((Formula.negation part).eval leaf) e = (.error fault, e') ↔
          Run.exec (part.eval leaf) e = (.error fault, e') := by
        refine Run.exec_bind_eq_error_iff.trans ⟨?_, Or.inl⟩
        rintro (h | ⟨given, e₁, -, h⟩)
        · exact h
        · cases h
      refine hnegation.trans (ih.trans ?_)
      constructor
      · rintro ⟨a, e₁, hasks, h⟩
        exact ⟨a, e₁, .negation hasks, h⟩
      · rintro ⟨a, e₁, hasks, h⟩
        cases hasks with
        | negation hasks => exact ⟨a, e₁, hasks, h⟩

end Formula

/-! ## The parts that a run meets -/

variable {principal : Option Principal} {e e' : Exchange} {fault : Fault}

/-- A part stops as the matcher does that it is. -/
theorem Part.exec_run_matcher_eq_error_iff {atom : Matcher.Atom} :
    Run.exec (Part.run principal (.matcher atom)) e = (.error fault, e') ↔
      Run.exec atom.ask e = (.error fault, e') := by
  refine Run.exec_bind_eq_error_iff.trans ⟨?_, Or.inl⟩
  rintro (h | ⟨given, e₁, -, h⟩)
  · exact h
  · cases h

theorem Matcher.exec_ask_eq_error_iff {matcher : Matcher} :
    Run.exec matcher.ask e = (.error fault, e') ↔
      ∃ atom e₁, matcher.Asks Atom.ask e atom e₁ ∧
        Run.exec (Part.run principal (.matcher atom)) e₁ = (.error fault, e') := by
  refine (Formula.exec_eval_eq_error_iff Frame.onward.holds_atom_ask).trans ?_
  simp only [Part.exec_run_matcher_eq_error_iff]

namespace Success

/-- The parts that a success handler meets, each in the exchange in which it is met: the single
matchers of the routes up to the one that selects the request, and then the parts of the success
handler that this leaves. -/
inductive Meets : Success → Exchange → Part → Exchange → Prop
  | answer (a : Answer) (e : Exchange) : Meets (.answer a) e (.success a) e
  | route {before after : List (Matcher × Success)} {matcher : Matcher} {target fallback : Success}
      {tried : List (List Call)} {e e₁ e₂ : Exchange} {atom : Matcher.Atom}
      (hbefore : Declined before e tried e₁)
      (hmatcher : matcher.Asks Matcher.Atom.ask e₁ atom e₂) :
      Meets (.routed (before ++ (matcher, target) :: after) fallback) e (.matcher atom) e₂
  | chosen {routes : List (Matcher × Success)} {fallback chosen : Success}
      {tried : List (List Call)} {e e₁ e₂ : Exchange} {part : Part}
      (hchosen : Chosen fallback routes e chosen tried e₁) (hpart : Meets chosen e₁ part e₂) :
      Meets (.routed routes fallback) e part e₂

theorem Meets.mem_parts {success : Success} {part : Part} {e₁ : Exchange}
    (h : success.Meets e part e₁) : part ∈ success.toParts := by
  induction h with
  | answer a e => exact List.mem_singleton_self _
  | route hbefore hmatcher =>
      refine List.mem_append_left _ (mem_partsOf.mpr
        ⟨_, List.mem_append_right _ List.mem_cons_self, Or.inl ?_⟩)
      exact Matcher.mem_toParts.mpr ⟨_, hmatcher.mem_leaves, rfl⟩
  | chosen hchosen hpart ih =>
      rcases hchosen.eq_fallback_or_mem with rfl | ⟨matcher, hmem⟩
      · exact List.mem_append_right _ ih
      · exact List.mem_append_left _ (mem_partsOf.mpr ⟨_, hmem, Or.inr ih⟩)

/-- Up to the part that a success handler meets, only matchers were asked. -/
theorem Meets.rel {F : Frame} {success : Success} {part : Part} {e₁ : Exchange}
    (h : success.Meets e part e₁) : F.Rel e e₁ := by
  induction h with
  | answer a e => exact F.refl e
  | route hbefore hmatcher =>
      exact F.trans (hbefore.rel fun route _ => F.holds_ask route.1)
        (hmatcher.rel F.holds_atom_ask)
  | chosen hchosen hpart ih => exact F.trans hchosen.rel ih

/-- A success handler stops iff it meets a part that stops. -/
theorem exec_give_eq_error_iff {success : Success} :
    Run.exec (success.give principal) e = (.error fault, e') ↔
      ∃ part e₁, success.Meets e part e₁ ∧
        Run.exec (part.run principal) e₁ = (.error fault, e') := by
  induction success using Dispatch.induction generalizing e with
  | answer a =>
      constructor
      · intro h
        exact ⟨.success a, e, .answer a e, h⟩
      · rintro ⟨part, e₁, hmeets, h⟩
        cases hmeets
        exact h
  | routed routes fallback ihroutes ihfallback =>
      -- whichever success handler the routes select is one of those below
      have ih : ∀ {chosen tried e₁}, Chosen fallback routes e chosen tried e₁ →
          (Run.exec (give principal chosen) e₁ = (.error fault, e') ↔
            ∃ part e₂, chosen.Meets e₁ part e₂ ∧
              Run.exec (part.run principal) e₂ = (.error fault, e')) := by
        intro chosen tried e₁ hchosen
        rcases hchosen.eq_fallback_or_mem with rfl | ⟨matcher, hmem⟩
        · exact ihfallback
        · exact ihroutes _ hmem
      refine exec_routed_eq_error_iff.trans ?_
      constructor
      · rintro (⟨before, matcher, target, after, tried, e₁, rfl, hbefore, hmatcher⟩ |
          ⟨chosen, tried, e₁, hchosen, hgive⟩)
        · obtain ⟨atom, e₂, hasks, h⟩ := Matcher.exec_ask_eq_error_iff.mp hmatcher
          exact ⟨.matcher atom, e₂, .route hbefore hasks, h⟩
        · obtain ⟨part, e₂, hmeets, h⟩ := (ih hchosen).mp hgive
          exact ⟨part, e₂, .chosen hchosen hmeets, h⟩
      · rintro ⟨part, e₂, hmeets, h⟩
        cases hmeets with
        | @route before after matcher target _ tried _ e₁ _ atom hbefore hasks =>
            exact Or.inl ⟨before, matcher, target, after, tried, e₁, rfl, hbefore,
              Matcher.exec_ask_eq_error_iff.mpr ⟨atom, e₂, hasks, h⟩⟩
        | @chosen _ _ chosen tried _ e₁ _ _ hchosen hmeets =>
            exact Or.inr ⟨chosen, tried, e₁, hchosen, (ih hchosen).mpr ⟨part, e₂, hmeets, h⟩⟩

end Success

namespace Configuration

variable {c : Configuration} {part : Part} {e₁ : Exchange}

/-- The parts that the stage of a configuration meets, each in the exchange in which it is met:
those of the request matcher, and once this has selected a request that can be read, the single
handlers from first to last, and behind all of them those of the success handlers. -/
inductive Meets (c : Configuration) (principal : Option Principal) (e : Exchange) :
    Part → Exchange → Prop
  | matcher {atom : Matcher.Atom} {e₁ : Exchange}
      (hmatcher : c.matcher.Asks Matcher.Atom.ask e atom e₁) :
      Meets c principal e (.matcher atom) e₁
  | handler {before after : List Handler.Action} {action : Handler.Action} {path : String}
      {blocks : List (List Call)} {e₁ e₂ : Exchange} (hrecognised : c.Recognises e path e₁)
      (hactions : Chain.actionsAll c.handlers = before ++ action :: after)
      (hbefore : Run.InOrder (Handler.Action.perform principal) () before e₁.opened blocks e₂) :
      Meets c principal e (.handler action) e₂
  | success {path : String} {blocks : List (List Call)} {e₁ e₂ e₃ : Exchange} {part : Part}
      (hrecognised : c.Recognises e path e₁)
      (hhandlers : Handler.Handled principal c.handlers e₁.opened blocks e₂)
      (hsuccess : Success.Meets (.routed c.routes c.fallback) e₂ part e₃) :
      Meets c principal e part e₃

/-- A stage meets its own parts only. -/
theorem Meets.mem_parts (h : c.Meets principal e part e₁) : part ∈ c.parts := by
  cases h with
  | matcher hmatcher => exact Configuration.matcher_mem_parts hmatcher.mem_leaves
  | @handler before after action path blocks e₂ _ hrecognised hactions hbefore =>
      have hmem : action ∈ Chain.actionsAll c.handlers := by
        rw [hactions]
        exact List.mem_append_right _ List.mem_cons_self
      exact Configuration.mem_parts_of_mem_chain (Handler.mem_toParts.mpr ⟨action, hmem, rfl⟩)
  | success hrecognised hhandlers hsuccess =>
      exact Configuration.mem_parts.mpr (Or.inr (Or.inr hsuccess.mem_parts))

/-- A frame that admits the handlers holds from the start of a stage to every part that it
meets: the success handlers ahead of a part are not run. -/
theorem Meets.rel {F : Frame} [F.AllowsWork] (h : c.Meets principal e part e₁)
    (hadmits : ∀ handler ∈ c.handlers, ∀ a ∈ handler.actions, F.Admits a) : F.Rel e e₁ := by
  have hopened : ∀ {path e₁}, c.Recognises e path e₁ → F.Rel e e₁.opened := by
    intro path e₁ hrecognised
    exact F.trans ((F.holds_ask c.matcher).rel hrecognised.selected)
      (Frame.AllowsWork.answered _ _)
  cases h with
  | matcher hmatcher => exact hmatcher.rel F.holds_atom_ask
  | handler hrecognised hactions hbefore =>
      refine F.trans (hopened hrecognised) (hbefore.rel fun action hmem => ?_)
      have hall : action ∈ Chain.actionsAll c.handlers := by
        rw [hactions]
        exact List.mem_append_left _ hmem
      obtain ⟨handler, hhandler, haction⟩ := Chain.mem_actionsAll.mp hall
      exact Frame.holds_action_perform (hadmits handler hhandler action haction) principal
  | success hrecognised hhandlers hsuccess =>
      have hhandled := hhandlers.rel fun handler hmem =>
        Frame.holds_perform (hadmits handler hmem) principal
      exact F.trans (hopened hrecognised) (F.trans hhandled hsuccess.rel)

end Configuration

/-- A stage stops iff it meets a part that stops, or the target of a request that it selected cannot
be read. -/
theorem Stage.exec_process_eq_error_iff_meets {c : Configuration} {s : Stage}
    (hs : Stage.ofConfiguration c = .ok s) :
    Run.exec (s.process principal) e = (.error fault, e') ↔
      (∃ part e₁, c.Meets principal e part e₁ ∧
        Run.exec (part.run principal) e₁ = (.error fault, e')) ∨
      ∃ run, e.request.urlPath = .error run ∧ fault = .undecodable run ∧
        Run.exec c.matcher.ask e = (.ok true, e') := by
  obtain rfl := Stage.eq_of_ofConfiguration hs
  refine Stage.exec_process_eq_error_iff.trans ?_
  constructor
  · rintro (hmatcher | ⟨e₁, hselected, hsignOut⟩)
    · obtain ⟨atom, e₂, hasks, h⟩ := Matcher.exec_ask_eq_error_iff.mp hmatcher
      exact Or.inl ⟨.matcher atom, e₂, .matcher hasks, h⟩
    have hread := urlPath_eq_of_exec_ask hselected
    cases hpath : e.request.urlPath with
    | error run =>
        rw [exec_signOut_of_unreadable (hread.trans hpath)] at hsignOut
        cases hsignOut
        exact Or.inr ⟨run, rfl, rfl, hselected⟩
    | ok path =>
        have hrecognised : c.Recognises e path e₁ := ⟨hselected, hpath⟩
        left
        rcases (exec_signOut_eq_error_iff (hread.trans hpath)).mp hsignOut with
          hhandlers | ⟨e₂, hhandlers, hsuccess⟩
        · obtain ⟨before, action, after, blocks, e₂, hactions, hbefore, h⟩ :=
            Handler.exec_perform_eq_error_iff.mp hhandlers
          exact ⟨.handler action, e₂, .handler hrecognised hactions hbefore, h⟩
        · obtain ⟨blocks, hhandled⟩ := Handler.exec_many_eq_ok_iff.mp hhandlers
          obtain ⟨part, e₃, hmeets, h⟩ := Success.exec_give_eq_error_iff.mp hsuccess
          exact ⟨part, e₃, .success hrecognised hhandled hmeets, h⟩
  · rintro (⟨part, e₂, hmeets, h⟩ | ⟨run, hpath, rfl, hselected⟩)
    · cases hmeets with
      | matcher hasks => exact Or.inl (Matcher.exec_ask_eq_error_iff.mpr ⟨_, _, hasks, h⟩)
      | @handler before after action path blocks e₁ _ hrecognised hactions hbefore =>
          have hread := (urlPath_eq_of_exec_ask hrecognised.selected).trans hrecognised.readable
          refine Or.inr ⟨e₁, hrecognised.selected,
            (exec_signOut_eq_error_iff hread).mpr (Or.inl ?_)⟩
          exact Handler.exec_perform_eq_error_iff.mpr ⟨_, _, _, _, _, hactions, hbefore, h⟩
      | @success path blocks e₁ e₃ _ _ hrecognised hhandled hsuccess =>
          have hread := (urlPath_eq_of_exec_ask hrecognised.selected).trans hrecognised.readable
          refine Or.inr ⟨e₁, hrecognised.selected,
            (exec_signOut_eq_error_iff hread).mpr (Or.inr ⟨e₃, ?_, ?_⟩)⟩
          · exact Handler.exec_many_eq_ok_iff.mpr ⟨blocks, hhandled⟩
          · exact Success.exec_give_eq_error_iff.mpr ⟨_, _, hsuccess, h⟩
    · have hread := (urlPath_eq_of_exec_ask hselected).trans hpath
      exact Or.inr ⟨e', hselected, exec_signOut_of_unreadable hread⟩

/-! ## Completed parts -/

namespace Run.InOrder

variable {ι α : Type} {act : ι → Run α} {result : α} {parts : List ι} {e e' : Exchange}
  {blocks : List (List Call)}

/-- Where all parts ran one after another, each of them completed. -/
theorem exists_of_mem (h : InOrder act result parts e blocks e') {part : ι} (hmem : part ∈ parts) :
    ∃ e₁ e₂, exec (act part) e₁ = (.ok result, e₂) := by
  induction h with
  | nil e => cases hmem
  | cons hpart hcalls hrest ih =>
      rcases List.mem_cons.mp hmem with rfl | hmem
      · exact ⟨_, _, hpart⟩
      · exact ih hmem

end Run.InOrder

/-- A handler completes iff its single handlers do, one after another. -/
theorem Handler.exec_perform_eq_ok_iff {handler : Handler} :
    Run.exec (handler.perform principal) e = (.ok (), e') ↔
      ∃ blocks, Run.InOrder (Action.perform principal) () handler.actions e blocks e' := by
  have hperform : handler.perform principal = handler.actions.forM (Action.perform principal) :=
    Chain.run_eq_forM _ handler
  rw [hperform]
  exact Run.exec_forM_eq_ok_iff fun action =>
    Frame.holds_action_perform (Frame.onward_admits action) principal

/-- The answers of the success handler that a course chose are parts of the stage. -/
theorem Configuration.Course.Completes.success_mem_parts {c : Configuration} {course : Course}
    {path : String} (h : course.Completes c principal e path) {a : Success.Answer}
    (ha : a ∈ course.chosen.answers) : .success a ∈ c.parts :=
  mem_parts_of_selectable h.chosen.eq_fallback_or_mem (Success.mem_toParts_of_mem_answers ha)

/-- Along a course, every single handler of the chain completed, at whatever depth it stands. -/
theorem Configuration.Course.Completes.exists_of_mem_actions {c : Configuration} {course : Course}
    {path : String} (h : course.Completes c principal e path) {handler : Handler}
    (hhandler : handler ∈ c.handlers) {action : Handler.Action}
    (haction : action ∈ handler.actions) :
    ∃ e₁ e₂, Run.exec (action.perform principal) e₁ = (.ok (), e₂) := by
  obtain ⟨e₁, e₂, hperform⟩ := h.handled.exists_of_mem hhandler
  obtain ⟨blocks, hblocks⟩ := Handler.exec_perform_eq_ok_iff.mp hperform
  exact hblocks.exists_of_mem haction

/-! ## The parts of a filter -/

namespace StageFilter

variable {filter : StageFilter} {part : Part} {e₁ : Exchange}

/-- The parts that a filter meets, each in the exchange in which it is met. -/
def Meets (filter : StageFilter) (principal : Option Principal) (e : Exchange) (part : Part)
    (e₁ : Exchange) : Prop :=
  filter.bare.configuration.Meets principal (filter.entered e) part e₁

theorem Meets.mem_parts (h : filter.Meets principal e part e₁) : part ∈ filter.parts :=
  Configuration.Meets.mem_parts h

end StageFilter

end SignOut
