import SignOut.Proofs.Parts
import SignOut.Proofs.Watching

/-!
# Grouped handlers

A handler may run others, and these may again.  Grouping is transparent: a chain does what the row
of its actions from left to right does, and begins the same actions in the same exchanges.  All of
them are begun if the chain completes; otherwise the last one that is begun is the one that stops,
and those to its right are not begun at whatever depth they stand.
-/

namespace SignOut

/-! ## Actions one after another -/

namespace Watched

variable {ι : Type} {act : ι → Run PUnit} {parts : List ι} {e e' : Exchange} {fault : Fault}

/-- Watching every part watches all of them. -/
theorem follows_forM (act : ι → Run PUnit) (parts : List ι) :
    Follows (parts.forM (noting act)) (parts.forM act) := by
  induction parts with
  | nil => exact follows_pure _
  | cons part rest ih => exact (follows_note part (act part)).bind fun _ => ih

theorem visits_forM_cons_of_ok {part : ι} {rest : List ι} {e₁ : Exchange}
    (hpart : Run.exec (act part) e = (.ok (), e₁)) :
    visits ((part :: rest).forM (noting act)) e =
      (part, e) :: visits (rest.forM (noting act)) e₁ :=
  visits_bind_of_ok (follows_note part (act part)) (follows_forM act rest) hpart

theorem visits_forM_cons_of_error {part : ι} {rest : List ι}
    (hpart : Run.exec (act part) e = (.error fault, e')) :
    visits ((part :: rest).forM (noting act)) e = [(part, e)] :=
  visits_bind_of_error (follows_note part (act part)) hpart

/-- Parts that complete one after another are all begun. -/
theorem visits_forM_of_ok (h : Run.exec (parts.forM act) e = (.ok (), e')) :
    (visits (parts.forM (noting act)) e).map Prod.fst = parts := by
  induction parts generalizing e with
  | nil => rfl
  | cons part rest ih =>
      obtain ⟨_, e₁, hpart, hrest⟩ := Run.exec_bind_eq_ok_iff.mp h
      rw [visits_forM_cons_of_ok hpart, List.map_cons, ih hrest]

/-- Where parts stop, the last one that is begun stops, and those behind it are not begun. -/
theorem visits_forM_of_error (h : Run.exec (parts.forM act) e = (.error fault, e')) :
    ∃ earlier part e₁ after, visits (parts.forM (noting act)) e = earlier ++ [(part, e₁)] ∧
      parts = earlier.map Prod.fst ++ part :: after ∧
      Run.exec (act part) e₁ = (.error fault, e') := by
  induction parts generalizing e with
  | nil => cases h
  | cons part rest ih =>
      -- the first part stops, or it completes and the fault lies behind it
      rcases Run.exec_bind_eq_error_iff.mp h with hpart | ⟨_, e₁, hpart, hrest⟩
      · exact ⟨[], part, e, rest, visits_forM_cons_of_error hpart, rfl, hpart⟩
      · obtain ⟨earlier, stopped, e₂, after, hvisits, rfl, hstopped⟩ := ih hrest
        refine ⟨(part, e) :: earlier, stopped, e₂, after, ?_, rfl, hstopped⟩
        rw [visits_forM_cons_of_ok hpart, hvisits]
        rfl

end Watched

/-! ## Chains and rows -/

namespace Chain

variable {α : Type}

/-- The chain of single actions one after another. -/
def row (actions : List α) : Chain α :=
  .many (actions.map .one)

/-- The actions that a chain begins, in their order, each with the exchange in which it is
begun. -/
def begun (act : α → Run Unit) (chain : Chain α) (e : Exchange) : List (Station α) :=
  Watched.visits (chain.run (Watched.noting act)) e

@[simp] theorem actions_row (actions : List α) : (row actions).actions = actions := by
  show actionsAll (actions.map .one) = actions
  induction actions with
  | nil => rfl
  | cons action rest ih =>
      show [action] ++ actionsAll (rest.map .one) = action :: rest
      rw [ih, List.singleton_append]

/-- A chain does what the row of its actions does. -/
theorem run_row_actions {m : Type → Type} [Monad m] [LawfulMonad m] (act : α → m Unit)
    (chain : Chain α) : (row chain.actions).run act = chain.run act := by
  rw [run_eq_forM, run_eq_forM, actions_row]

/-- A chain and the row of its actions begin the same actions in the same exchanges. -/
theorem begun_row_actions (act : α → Run Unit) (chain : Chain α) (e : Exchange) :
    (row chain.actions).begun act e = chain.begun act e := by
  rw [begun, run_row_actions, begun]

variable {act : α → Run Unit} {chain : Chain α} {e e' : Exchange} {fault : Fault}

/-- A chain that completes has begun all its actions. -/
theorem begun_of_ok (h : Run.exec (chain.run act) e = (.ok (), e')) :
    (chain.begun act e).map Prod.fst = chain.actions := by
  rw [run_eq_forM] at h
  rw [begun, run_eq_forM]
  exact Watched.visits_forM_of_ok h

/-- A chain that stops has begun its actions up to the one that stops. -/
theorem begun_of_error (h : Run.exec (chain.run act) e = (.error fault, e')) :
    ∃ earlier action e₁ after, chain.begun act e = earlier ++ [(action, e₁)] ∧
      chain.actions = earlier.map Prod.fst ++ action :: after ∧
      Run.exec (act action) e₁ = (.error fault, e') := by
  rw [run_eq_forM] at h
  rw [begun, run_eq_forM]
  exact Watched.visits_forM_of_error h

end Chain

/-! ## Composite handlers -/

namespace Handler

/-- A handler that can be composed of handlers that are there. -/
inductive Made : Handler → Prop
  | one {action : Action} (hgiven : Handler.isNothing (.one action) = false) : Made (.one action)
  | composite {parts : List Handler} {made : Handler} (hparts : ∀ part ∈ parts, Made part)
      (hmade : Handler.composite parts = .ok made) : Made made

theorem composite_eq_ok_iff {parts : List Handler} {made : Handler} :
    Handler.composite parts = .ok made ↔
      (∀ part ∈ parts, part.isNothing = false) ∧ made = .many parts := by
  have hparts : ∀ accepted, (parts.mapM fun part => require part "handler") = .ok accepted ↔
      (∀ part ∈ parts, part.isNothing = false) ∧ accepted = parts :=
    fun _ => Checks.mapM_given_eq_ok_iff fun _ _ => require_eq_ok_iff
  unfold composite
  refine Checks.bind_eq_ok_iff.trans ⟨?_, ?_⟩
  · rintro ⟨accepted, haccepted, hmade⟩
    obtain ⟨hgiven, rfl⟩ := (hparts accepted).mp haccepted
    exact ⟨hgiven, (Except.ok.inj hmade).symm⟩
  · rintro ⟨hgiven, rfl⟩
    exact ⟨parts, (hparts parts).mpr ⟨hgiven, rfl⟩, rfl⟩

/-- All single handlers of a composed one are there. -/
theorem Made.given {handler : Handler} (h : Made handler) :
    ∀ action ∈ handler.actions, Handler.isNothing (.one action) = false := by
  induction h with
  | one hgiven => exact fun action hmem => List.mem_singleton.mp hmem ▸ hgiven
  | composite hparts hmade ih =>
      obtain ⟨-, rfl⟩ := composite_eq_ok_iff.mp hmade
      intro action hmem
      obtain ⟨part, hpart, haction⟩ := Chain.mem_actionsAll.mp hmem
      exact ih part hpart action haction

/-- So one composite handler can be made of them. -/
theorem Made.composite_actions {handler : Handler} (h : Made handler) :
    Handler.composite (handler.actions.map .one) = .ok (Chain.row handler.actions) := by
  refine composite_eq_ok_iff.mpr ⟨fun part hpart => ?_, rfl⟩
  obtain ⟨action, haction, rfl⟩ := List.mem_map.mp hpart
  exact h.given action haction

/-- A chain does what the row of its actions from left to right does: it ends in the same exchange
with the same result, and begins the same actions in the same exchanges.  If it completes it has
begun all of them, and if it stops it has begun those up to the one that stops.  So a handler does
what one composite handler of its single handlers does, and that can be made wherever the handler
can. -/
theorem perform_row_actions :
    (∀ {α : Type} (act : α → Run Unit) (chain : Chain α) (e : Exchange),
      Run.exec ((Chain.row chain.actions).run act) e = Run.exec (chain.run act) e ∧
      (Chain.row chain.actions).begun act e = chain.begun act e ∧
      Watched.Follows (chain.run (Watched.noting act)) (chain.run act) ∧
      (∀ e', Run.exec (chain.run act) e = (.ok (), e') →
        (chain.begun act e).map Prod.fst = chain.actions) ∧
      ∀ fault e', Run.exec (chain.run act) e = (.error fault, e') →
        ∃ (earlier : List (Station α)) (action : α) (e₁ : Exchange) (after : List α),
          chain.begun act e = earlier ++ [(action, e₁)] ∧
          chain.actions = earlier.map Prod.fst ++ action :: after ∧
          Run.exec (act action) e₁ = (.error fault, e')) ∧
    ∀ handler : Handler, handler.Made →
      ∃ flat, Handler.composite (handler.actions.map .one) = .ok flat ∧
        ∀ (principal : Option Principal) (e : Exchange),
          Run.exec (flat.perform principal) e = Run.exec (handler.perform principal) e ∧
          flat.begun (Action.perform principal) e = handler.begun (Action.perform principal) e := by
  constructor
  · intro α act chain e
    refine ⟨?_, Chain.begun_row_actions act chain e, ?_, fun e' h => Chain.begun_of_ok h,
      fun fault e' h => Chain.begun_of_error h⟩
    · rw [Chain.run_row_actions]
    · rw [Chain.run_eq_forM, Chain.run_eq_forM]
      exact Watched.follows_forM act chain.actions
  · intro handler hmade
    refine ⟨Chain.row handler.actions, hmade.composite_actions, fun principal e => ⟨?_, ?_⟩⟩
    · rw [perform, Chain.run_row_actions, perform]
    · exact Chain.begun_row_actions (Action.perform principal) handler e

/-- A group whose inner group stops, with a handler behind it in the group and one outside. -/
def sampleGrouped : Handler :=
  .many [.one .forgetUser,
    .many [.many [], .one (.failing "broken"), .one (.clearContext .on .on)],
    .one .forgetUser]

theorem made_sampleGrouped : sampleGrouped.Made := by
  have hmany : ∀ {parts : List Handler}, (∀ part ∈ parts, part.isNothing = false) →
      (∀ part ∈ parts, Made part) → Made (.many parts) := fun hgiven hparts =>
    .composite hparts (composite_eq_ok_iff.mpr ⟨hgiven, rfl⟩)
  have hforget : Made (.one .forgetUser) := .one rfl
  have hfailing : Made (.one (.failing "broken")) := .one rfl
  have hclear : Made (.one (.clearContext .on .on)) := .one rfl
  have hempty : Made (.many []) := hmany (by simp) (by simp)
  have hinner : Made (.many [.many [], .one (.failing "broken"), .one (.clearContext .on .on)]) :=
    hmany (by simp [isNothing]) (by simp [hempty, hfailing, hclear])
  exact hmany (by simp [isNothing]) (by simp [hinner, hforget])

theorem perform_row_actions_sample :
    sampleGrouped.Made ∧
      (∃ flat, Handler.composite (sampleGrouped.actions.map .one) = .ok flat ∧
        Run.exec (flat.perform none) Stage.sampleExchange =
          Run.exec (sampleGrouped.perform none) Stage.sampleExchange) ∧
      (Run.exec (sampleGrouped.perform none) Stage.sampleExchange).1 =
        .error (.raised "broken") ∧
      (sampleGrouped.begun (Action.perform none) Stage.sampleExchange).map Prod.fst =
        [.forgetUser, .failing "broken"] ∧
      ∃ (earlier : List (Station Action)) (action : Action) (e₁ : Exchange) (after : List Action),
        sampleGrouped.begun (Action.perform none) Stage.sampleExchange =
          earlier ++ [(action, e₁)] ∧
        sampleGrouped.actions = earlier.map Prod.fst ++ action :: after := by
  have hlaw := perform_row_actions.1 (Action.perform none) sampleGrouped Stage.sampleExchange
  obtain ⟨flat, hflat, hsame⟩ := perform_row_actions.2 sampleGrouped made_sampleGrouped
  obtain ⟨earlier, action, e₁, after, hbegun, hactions, -⟩ := hlaw.2.2.2.2 (.raised "broken") _ rfl
  exact ⟨made_sampleGrouped, ⟨flat, hflat, (hsame none _).1⟩, rfl, rfl,
    earlier, action, e₁, after, hbegun, hactions⟩

end Handler

end SignOut
