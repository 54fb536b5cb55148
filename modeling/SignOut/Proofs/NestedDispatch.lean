import SignOut.Proofs.Parts
import SignOut.Proofs.Watching

/-!
# Nested dispatch

Routes and fallbacks of a dispatch may be dispatches again.  A request takes at each level the
first route whose matcher selects it, or else the fallback, until it reaches an answer; a matcher
that stops on the way ends the attempt.  Main statement: a dispatch gives exactly the one answer
that the request reaches, or none if a matcher on the way stops, and a fallback that is itself a
dispatch only continues the list of routes.
-/

namespace SignOut

namespace Dispatch

variable {μ α : Type}

/-! ## The way of a request -/

/-- The target of the first route whose matcher selects the request, or the fallback after all
declined, with the matchers that were asked and the exchange that the last of them left. -/
inductive Leads (ask : μ → Run Bool) (fallback : Dispatch μ α) :
    List (μ × Dispatch μ α) → Exchange → Dispatch μ α → List (Station μ) → Exchange → Prop
  | none (e : Exchange) : Leads ask fallback [] e fallback [] e
  | selected {matcher : μ} {target : Dispatch μ α} {rest : List (μ × Dispatch μ α)}
      {e e₁ : Exchange} (hmatcher : Run.exec (ask matcher) e = (.ok true, e₁)) :
      Leads ask fallback ((matcher, target) :: rest) e target [(matcher, e)] e₁
  | declined {matcher : μ} {target chosen : Dispatch μ α} {rest : List (μ × Dispatch μ α)}
      {e e₁ e₂ : Exchange} {asked : List (Station μ)}
      (hmatcher : Run.exec (ask matcher) e = (.ok false, e₁))
      (hrest : Leads ask fallback rest e₁ chosen asked e₂) :
      Leads ask fallback ((matcher, target) :: rest) e chosen ((matcher, e) :: asked) e₂

/-- A matcher of routes stops after those before it declined. -/
inductive Halts (ask : μ → Run Bool) :
    List (μ × Dispatch μ α) → Exchange → Fault → List (Station μ) → Exchange → Prop
  | here {matcher : μ} {target : Dispatch μ α} {rest : List (μ × Dispatch μ α)}
      {e e₁ : Exchange} {fault : Fault}
      (hmatcher : Run.exec (ask matcher) e = (.error fault, e₁)) :
      Halts ask ((matcher, target) :: rest) e fault [(matcher, e)] e₁
  | later {matcher : μ} {target : Dispatch μ α} {rest : List (μ × Dispatch μ α)}
      {e e₁ e₂ : Exchange} {fault : Fault} {asked : List (Station μ)}
      (hmatcher : Run.exec (ask matcher) e = (.ok false, e₁))
      (hrest : Halts ask rest e₁ fault asked e₂) :
      Halts ask ((matcher, target) :: rest) e fault ((matcher, e) :: asked) e₂

/-- The answer that a request reaches by what the routes of each level lead to, with the matchers
that are asked on the way and the exchange in which the answer is reached. -/
inductive Reaches (ask : μ → Run Bool) :
    Dispatch μ α → Exchange → α → List (Station μ) → Exchange → Prop
  | answer (a : α) (e : Exchange) : Reaches ask (.answer a) e a [] e
  | routed {routes : List (μ × Dispatch μ α)} {fallback chosen : Dispatch μ α}
      {e e₁ e₂ : Exchange} {a : α} {asked below : List (Station μ)}
      (hleads : Leads ask fallback routes e chosen asked e₁)
      (hbelow : Reaches ask chosen e₁ a below e₂) :
      Reaches ask (.routed routes fallback) e a (asked ++ below) e₂

/-- The fault of a matcher that stops on the way of a request, with the matchers that are asked up
to it and the exchange that it leaves. -/
inductive Breaks (ask : μ → Run Bool) :
    Dispatch μ α → Exchange → Fault → List (Station μ) → Exchange → Prop
  | atRoute {routes : List (μ × Dispatch μ α)} {fallback : Dispatch μ α} {e e₁ : Exchange}
      {fault : Fault} {asked : List (Station μ)} (hhalts : Halts ask routes e fault asked e₁) :
      Breaks ask (.routed routes fallback) e fault asked e₁
  | deeper {routes : List (μ × Dispatch μ α)} {fallback chosen : Dispatch μ α}
      {e e₁ e₂ : Exchange} {fault : Fault} {asked below : List (Station μ)}
      (hleads : Leads ask fallback routes e chosen asked e₁)
      (hbelow : Breaks ask chosen e₁ fault below e₂) :
      Breaks ask (.routed routes fallback) e fault (asked ++ below) e₂

section Way

variable {ask : μ → Run Bool} {fallback chosen tree : Dispatch μ α}
  {routes : List (μ × Dispatch μ α)} {e e₁ : Exchange} {fault : Fault} {asked : List (Station μ)}

/-- What routes lead to is their fallback or the target of one of them. -/
theorem Leads.eq_fallback_or_mem (h : Leads ask fallback routes e chosen asked e₁) :
    chosen = fallback ∨ ∃ matcher, (matcher, chosen) ∈ routes := by
  induction h with
  | none e => exact Or.inl rfl
  | selected hmatcher => exact Or.inr ⟨_, List.mem_cons_self⟩
  | declined hmatcher hrest ih =>
      refine ih.imp_right ?_
      rintro ⟨matcher, hmem⟩
      exact ⟨matcher, List.mem_cons_of_mem _ hmem⟩

/-- Routes lead somewhere unless one of their matchers stops. -/
theorem leads_or_halts (ask : μ → Run Bool) (fallback : Dispatch μ α)
    (routes : List (μ × Dispatch μ α)) (e : Exchange) :
    (∃ chosen asked e₁, Leads ask fallback routes e chosen asked e₁) ∨
      ∃ fault asked e₁, Halts ask routes e fault asked e₁ := by
  induction routes generalizing e with
  | nil => exact Or.inl ⟨_, _, _, .none e⟩
  | cons route rest ih =>
      obtain ⟨matcher, target⟩ := route
      rcases hmatcher : Run.exec (ask matcher) e with ⟨result, e₁⟩
      cases result with
      | error fault => exact Or.inr ⟨_, _, _, .here hmatcher⟩
      | ok selected =>
          cases selected with
          | true => exact Or.inl ⟨_, _, _, .selected hmatcher⟩
          | false =>
              rcases ih e₁ with ⟨chosen, asked, e₂, hrest⟩ | ⟨fault, asked, e₂, hrest⟩
              · exact Or.inl ⟨_, _, _, .declined hmatcher hrest⟩
              · exact Or.inr ⟨_, _, _, .later hmatcher hrest⟩

/-- A request reaches an answer unless a matcher on its way stops. -/
theorem reaches_or_breaks (ask : μ → Run Bool) (tree : Dispatch μ α) (e : Exchange) :
    (∃ a asked e₁, Reaches ask tree e a asked e₁) ∨
      ∃ fault asked e₁, Breaks ask tree e fault asked e₁ := by
  induction tree using Dispatch.induction generalizing e with
  | answer a => exact Or.inl ⟨a, [], e, .answer a e⟩
  | routed routes fallback ihroutes ihfallback =>
      rcases leads_or_halts ask fallback routes e with
        ⟨chosen, asked, e₁, hleads⟩ | ⟨fault, asked, e₁, hhalts⟩
      · -- what is chosen is one of the parts, in an exchange that the matchers have changed
        have ih : (∃ a below e₂, Reaches ask chosen e₁ a below e₂) ∨
            ∃ fault below e₂, Breaks ask chosen e₁ fault below e₂ := by
          rcases hleads.eq_fallback_or_mem with rfl | ⟨matcher, hmem⟩
          · exact ihfallback e₁
          · exact ihroutes _ hmem e₁
        rcases ih with ⟨a, below, e₂, hbelow⟩ | ⟨fault, below, e₂, hbelow⟩
        · exact Or.inl ⟨_, _, _, .routed hleads hbelow⟩
        · exact Or.inr ⟨_, _, _, .deeper hleads hbelow⟩
      · exact Or.inr ⟨_, _, _, .atRoute hhalts⟩

end Way

/-! ## Matchers and answers under watch -/

/-- Ask a matcher and note it, where answers are noted as well. -/
def noteMatcher (ask : μ → Run Bool) (matcher : μ) : Watched (μ ⊕ α) Bool :=
  Watched.note (.inl matcher) (ask matcher)

/-- Give an answer and note it, where matchers are noted as well. -/
def noteAnswer (give : α → Run Unit) (a : α) : Watched (μ ⊕ α) Unit :=
  Watched.note (.inr a) (give a)

/-- The matchers that a dispatch asks and the answers that it gives, in their order, each with the
exchange in which it is come to. -/
def visited (ask : μ → Run Bool) (give : α → Run Unit) (tree : Dispatch μ α) (e : Exchange) :
    List (Station (μ ⊕ α)) :=
  Watched.visits (tree.run (noteMatcher ask) (noteAnswer give)) e

/-- Matchers that were asked, among matchers and answers. -/
def matchersOnly (asked : List (Station μ)) : List (Station (μ ⊕ α)) :=
  asked.map (Prod.map .inl id)

mutual

/-- Watching matchers and answers changes nothing about a dispatch. -/
theorem follows_run (ask : μ → Run Bool) (give : α → Run Unit) : (tree : Dispatch μ α) →
    Watched.Follows (tree.run (noteMatcher ask) (noteAnswer give)) (tree.run ask give)
  | .answer a => Watched.follows_note (Sum.inr a) (give a)
  | .routed routes fallback => follows_runRoutes ask give (follows_run ask give fallback) routes

theorem follows_runRoutes (ask : μ → Run Bool) (give : α → Run Unit)
    {otherwise : Watched (μ ⊕ α) Unit} {plain : Run Unit}
    (hotherwise : Watched.Follows otherwise plain) : (routes : List (μ × Dispatch μ α)) →
    Watched.Follows (runRoutes (noteMatcher ask) (noteAnswer give) otherwise routes)
      (runRoutes ask give plain routes)
  | [] => hotherwise
  | (matcher, target) :: rest => by
      refine (Watched.follows_note (Sum.inl matcher) (ask matcher)).bind fun selected => ?_
      cases selected with
      | true => exact follows_run ask give target
      | false => exact follows_runRoutes ask give hotherwise rest

end

section Runs

variable {ask : μ → Run Bool} {fallback chosen tree : Dispatch μ α}
  {routes : List (μ × Dispatch μ α)} {e e₁ e₂ : Exchange} {fault : Fault}
  {asked : List (Station μ)} {a : α}

/-- Trying routes under watch begins with noting what the first matcher does. -/
theorem run_runRoutes_cons {matcher : μ} {target : Dispatch μ α} {selected : Bool}
    (hmatcher : Run.exec (ask matcher) e = (.ok selected, e₁)) (give : α → Run Unit)
    (otherwise : Watched (μ ⊕ α) Unit) (earlier : List (Station (μ ⊕ α))) :
    Watched.run (runRoutes (noteMatcher ask) (noteAnswer give) otherwise
        ((matcher, target) :: routes)) e earlier =
      Watched.run
        (if selected then target.run (noteMatcher ask) (noteAnswer give)
          else runRoutes (noteMatcher ask) (noteAnswer give) otherwise routes)
        e₁ (earlier ++ [(.inl matcher, e)]) := by
  refine (Watched.run_bind _ _ e earlier).trans ?_
  rw [noteMatcher, Watched.run_note, hmatcher]

/-- Routes go on with what they lead to. -/
theorem Leads.run_eq (h : Leads ask fallback routes e chosen asked e₁) (give : α → Run Unit)
    (earlier : List (Station (μ ⊕ α))) :
    Watched.run ((Dispatch.routed routes fallback).run (noteMatcher ask) (noteAnswer give)) e
        earlier =
      Watched.run (chosen.run (noteMatcher ask) (noteAnswer give)) e₁
        (earlier ++ matchersOnly asked) := by
  induction h generalizing earlier with
  | none e =>
      rw [matchersOnly, List.map_nil, List.append_nil]
      rfl
  | selected hmatcher => exact run_runRoutes_cons hmatcher give _ earlier
  | declined hmatcher hrest ih =>
      refine (run_runRoutes_cons hmatcher give _ earlier).trans ((ih _).trans ?_)
      rw [List.append_assoc]
      rfl

/-- Routes one of whose matchers stops end there. -/
theorem Halts.run_eq (h : Halts ask routes e fault asked e₁) (give : α → Run Unit)
    (earlier : List (Station (μ ⊕ α))) :
    Watched.run ((Dispatch.routed routes fallback).run (noteMatcher ask) (noteAnswer give)) e
        earlier =
      (.error fault, e₁, earlier ++ matchersOnly asked) := by
  induction h generalizing earlier with
  | here hmatcher =>
      refine (Watched.run_bind _ _ _ earlier).trans ?_
      rw [noteMatcher, Watched.run_note, hmatcher]
      rfl
  | later hmatcher hrest ih =>
      refine (run_runRoutes_cons hmatcher give _ earlier).trans ((ih _).trans ?_)
      rw [List.append_assoc]
      rfl

theorem matchersOnly_append (asked below : List (Station μ)) :
    (matchersOnly (asked ++ below) : List (Station (μ ⊕ α))) =
      matchersOnly asked ++ matchersOnly below :=
  List.map_append

/-- A dispatch gives the answer that the request reaches. -/
theorem Reaches.run_eq (h : Reaches ask tree e a asked e₁) (give : α → Run Unit)
    (earlier : List (Station (μ ⊕ α))) :
    Watched.run (tree.run (noteMatcher ask) (noteAnswer give)) e earlier =
      ((Run.exec (give a) e₁).1, (Run.exec (give a) e₁).2,
        earlier ++ (matchersOnly asked ++ [(.inr a, e₁)])) := by
  induction h generalizing earlier with
  | answer a e => rfl
  | routed hleads hbelow ih =>
      rw [hleads.run_eq, ih, matchersOnly_append, List.append_assoc, List.append_assoc]

/-- A dispatch in which a matcher on the way stops gives no answer. -/
theorem Breaks.run_eq (h : Breaks ask tree e fault asked e₁) (give : α → Run Unit)
    (earlier : List (Station (μ ⊕ α))) :
    Watched.run (tree.run (noteMatcher ask) (noteAnswer give)) e earlier =
      (.error fault, e₁, earlier ++ matchersOnly asked) := by
  induction h generalizing earlier with
  | atRoute hhalts => exact hhalts.run_eq give earlier
  | deeper hleads hbelow ih =>
      rw [hleads.run_eq, ih, matchersOnly_append, List.append_assoc]

/-- What is reached is run, and it is the only answer that is come to. -/
theorem Reaches.exec_eq (h : Reaches ask tree e a asked e₁) (give : α → Run Unit) :
    Run.exec (tree.run ask give) e = Run.exec (give a) e₁ ∧
      visited ask give tree e = matchersOnly asked ++ [(.inr a, e₁)] :=
  (follows_run ask give tree).eq_of_run (h.run_eq give [])

/-- Where a matcher stops, its fault is passed on and no answer is come to. -/
theorem Breaks.exec_eq (h : Breaks ask tree e fault asked e₁) (give : α → Run Unit) :
    Run.exec (tree.run ask give) e = (.error fault, e₁) ∧
      visited ask give tree e = matchersOnly asked :=
  (follows_run ask give tree).eq_of_run (h.run_eq give [])

end Runs

/-! ## Fallbacks that are dispatches -/

section Flattening

variable {m : Type → Type} [Monad m]

theorem runRoutes_append (ask : μ → m Bool) (give : α → m Unit) (otherwise : m Unit)
    (routes others : List (μ × Dispatch μ α)) :
    runRoutes ask give otherwise (routes ++ others) =
      runRoutes ask give (runRoutes ask give otherwise others) routes := by
  induction routes with
  | nil => rfl
  | cons route rest ih =>
      obtain ⟨matcher, target⟩ := route
      refine congrArg (ask matcher >>= ·) (funext fun selected => ?_)
      cases selected with
      | true => rfl
      | false => exact ih

/-- A fallback that is a dispatch continues the list of routes. -/
theorem run_routed_routed (ask : μ → m Bool) (give : α → m Unit)
    (routes others : List (μ × Dispatch μ α)) (fallback : Dispatch μ α) :
    (Dispatch.routed routes (.routed others fallback)).run ask give =
      (Dispatch.routed (routes ++ others) fallback).run ask give :=
  (runRoutes_append ask give (fallback.run ask give) routes others).symm

end Flattening

/-- The nested dispatch and the flat one ask, answer and stop alike. -/
theorem exec_routed_routed (ask : μ → Run Bool) (give : α → Run Unit)
    (routes others : List (μ × Dispatch μ α)) (fallback : Dispatch μ α) (e : Exchange) :
    Run.exec ((Dispatch.routed routes (.routed others fallback)).run ask give) e =
        Run.exec ((Dispatch.routed (routes ++ others) fallback).run ask give) e ∧
      (Dispatch.routed routes (.routed others fallback)).visited ask give e =
        (Dispatch.routed (routes ++ others) fallback).visited ask give e := by
  unfold visited
  rw [run_routed_routed, run_routed_routed]
  exact ⟨rfl, rfl⟩

end Dispatch

/-! ## Success handlers -/

namespace Success

theorem requireRoute_eq_ok_iff {route checked : Matcher × Success} :
    requireRoute route = .ok checked ↔
      (route.1.isNothing = false ∧ route.2.isNothing = false) ∧ checked = route := by
  obtain ⟨matcher, target⟩ := route
  constructor
  · intro h
    obtain ⟨accepted, hmatcher, hrest⟩ := Checks.bind_eq_ok_iff.mp h
    obtain ⟨handler, htarget, -⟩ := Checks.bind_eq_ok_iff.mp hrest
    exact ⟨⟨(Matcher.require_eq_ok_iff.mp hmatcher).1, (require_eq_ok_iff.mp htarget).1⟩,
      eq_of_requireRoute h⟩
  · rintro ⟨⟨hmatcher, htarget⟩, rfl⟩
    unfold requireRoute
    rw [Matcher.require_eq_ok_iff.mpr ⟨hmatcher, rfl⟩, require_eq_ok_iff.mpr ⟨htarget, rfl⟩]
    rfl

/-- A dispatch can be made iff every part of it is there. -/
theorem delegating_eq_ok_iff {routes : List (Matcher × Success)} {fallback made : Success} :
    delegating routes fallback = .ok made ↔
      (∀ route ∈ routes, route.1.isNothing = false ∧ route.2.isNothing = false) ∧
        fallback.isNothing = false ∧ made = .routed routes fallback := by
  have hroutes : ∀ accepted, routes.mapM requireRoute = .ok accepted ↔
      (∀ route ∈ routes, route.1.isNothing = false ∧ route.2.isNothing = false) ∧
        accepted = routes :=
    fun _ => Checks.mapM_given_eq_ok_iff fun _ _ => requireRoute_eq_ok_iff
  constructor
  · intro h
    obtain ⟨accepted, haccepted, hrest⟩ := Checks.bind_eq_ok_iff.mp h
    obtain ⟨given, hgiven, hmade⟩ := Checks.bind_eq_ok_iff.mp hrest
    cases hmade
    obtain ⟨hthere, rfl⟩ := (hroutes accepted).mp haccepted
    obtain ⟨hfallback, rfl⟩ := require_eq_ok_iff.mp hgiven
    exact ⟨hthere, hfallback, rfl⟩
  · rintro ⟨hthere, hfallback, rfl⟩
    unfold delegating
    rw [(hroutes routes).mpr ⟨hthere, rfl⟩, require_eq_ok_iff.mpr ⟨hfallback, rfl⟩]
    rfl

/-- Where a dispatch and the dispatch in its fallback can be made, so can the one over all their
routes. -/
theorem delegating_append {routes others : List (Matcher × Success)}
    {fallback inner outer : Success} (hinner : delegating others fallback = .ok inner)
    (houter : delegating routes inner = .ok outer) :
    delegating (routes ++ others) fallback = .ok (.routed (routes ++ others) fallback) ∧
      outer = .routed routes (.routed others fallback) := by
  obtain ⟨hothers, hfallback, rfl⟩ := delegating_eq_ok_iff.mp hinner
  obtain ⟨hroutes, -, rfl⟩ := delegating_eq_ok_iff.mp houter
  refine ⟨delegating_eq_ok_iff.mpr ⟨fun route hmem => ?_, hfallback, rfl⟩, rfl⟩
  exact (List.mem_append.mp hmem).elim (hroutes route) (hothers route)

/-- A request reaches one answer of nested dispatches, or a matcher on its way stops.  The answer
that it reaches is given, and it is the only one; where a matcher stops, its fault is passed on and
no answer is given; and the matchers that are asked are those on the way.  A fallback that is a
dispatch continues the list of routes: the dispatch over all of them can be made where the nested
ones can, and it asks, answers and stops as they do. -/
theorem give_nested :
    (∀ {μ α : Type} (ask : μ → Run Bool) (give : α → Run Unit) (tree : Dispatch μ α)
        (e : Exchange),
      ((∃ a asked e₁, Dispatch.Reaches ask tree e a asked e₁) ∨
        ∃ fault asked e₁, Dispatch.Breaks ask tree e fault asked e₁) ∧
      (∀ a asked e₁, Dispatch.Reaches ask tree e a asked e₁ →
        Run.exec (tree.run ask give) e = Run.exec (give a) e₁ ∧
        tree.visited ask give e = Dispatch.matchersOnly asked ++ [(.inr a, e₁)]) ∧
      (∀ fault asked e₁, Dispatch.Breaks ask tree e fault asked e₁ →
        Run.exec (tree.run ask give) e = (.error fault, e₁) ∧
        tree.visited ask give e = Dispatch.matchersOnly asked) ∧
      Watched.Follows (tree.run (Dispatch.noteMatcher ask) (Dispatch.noteAnswer give))
        (tree.run ask give)) ∧
    (∀ {μ α : Type} (ask : μ → Run Bool) (give : α → Run Unit)
        (routes others : List (μ × Dispatch μ α)) (fallback : Dispatch μ α) (e : Exchange),
      Run.exec ((Dispatch.routed routes (.routed others fallback)).run ask give) e =
        Run.exec ((Dispatch.routed (routes ++ others) fallback).run ask give) e ∧
      (Dispatch.routed routes (.routed others fallback)).visited ask give e =
        (Dispatch.routed (routes ++ others) fallback).visited ask give e) ∧
    (∀ (success : Success) (principal : Option Principal) (e : Exchange),
      (∃ a asked e₁, Dispatch.Reaches Matcher.ask success e a asked e₁ ∧
        Run.exec (success.give principal) e = Run.exec (a.give principal) e₁) ∨
      ∃ fault asked e₁, Dispatch.Breaks Matcher.ask success e fault asked e₁ ∧
        Run.exec (success.give principal) e = (.error fault, e₁)) ∧
    ∀ (routes others : List (Matcher × Success)) (fallback inner outer : Success),
      Success.delegating others fallback = .ok inner →
      Success.delegating routes inner = .ok outer →
      ∃ flat, Success.delegating (routes ++ others) fallback = .ok flat ∧
        ∀ (principal : Option Principal) (e : Exchange),
          Run.exec (outer.give principal) e = Run.exec (flat.give principal) e ∧
          outer.visited Matcher.ask (Answer.give principal) e =
            flat.visited Matcher.ask (Answer.give principal) e := by
  refine ⟨fun ask give tree e => ⟨Dispatch.reaches_or_breaks ask tree e, ?_, ?_, ?_⟩, ?_, ?_, ?_⟩
  · exact fun a asked e₁ h => h.exec_eq give
  · exact fun fault asked e₁ h => h.exec_eq give
  · exact Dispatch.follows_run ask give tree
  · exact fun ask give routes others fallback e =>
      Dispatch.exec_routed_routed ask give routes others fallback e
  · intro success principal e
    rcases Dispatch.reaches_or_breaks Matcher.ask success e with
      ⟨a, asked, e₁, h⟩ | ⟨fault, asked, e₁, h⟩
    · exact Or.inl ⟨a, asked, e₁, h, (h.exec_eq (Answer.give principal)).1⟩
    · exact Or.inr ⟨fault, asked, e₁, h, (h.exec_eq (Answer.give principal)).1⟩
  · intro routes others fallback inner outer hinner houter
    obtain ⟨hflat, rfl⟩ := delegating_append hinner houter
    exact ⟨_, hflat, fun principal e =>
      Dispatch.exec_routed_routed Matcher.ask (Answer.give principal) routes others fallback e⟩

/-- A matcher that records its name and answers as told. -/
def sampleGate (name : String) (answer : Except String Bool) : Matcher :=
  .atom (.probe name answer)

/-- One route, which is declined. -/
def sampleRoutes : List (Matcher × Success) :=
  [(sampleGate "first" (.ok false), .answer (.status none))]

/-- A route that is selected, before one whose matcher stops. -/
def sampleOthers : List (Matcher × Success) :=
  [(sampleGate "second" (.ok true), .answer (.recording "chosen" (some 200))),
    (sampleGate "third" (.error "broken"), .answer (.status none))]

/-- A dispatch in the fallback of another. -/
def sampleNested : Success :=
  .routed sampleRoutes (.routed sampleOthers (.answer (.redirect "/")))

/-- The sample reaches an answer of the inner dispatch, past the matcher of the outer one. -/
theorem reaches_sampleNested :
    ∃ asked e₁, Dispatch.Reaches Matcher.ask sampleNested Stage.sampleExchange
      (.recording "chosen" (some 200)) asked e₁ :=
  ⟨_, _, .routed (.declined rfl (.none _)) (.routed (.selected rfl) (.answer _ _))⟩

theorem give_nested_sample :
    (∃ asked e₁, Dispatch.Reaches Matcher.ask sampleNested Stage.sampleExchange
        (.recording "chosen" (some 200)) asked e₁ ∧
      sampleNested.visited Matcher.ask (Answer.give none) Stage.sampleExchange =
        Dispatch.matchersOnly asked ++ [(.inr (.recording "chosen" (some 200)), e₁)]) ∧
      ∃ flat, delegating (sampleRoutes ++ sampleOthers) (.answer (.redirect "/")) = .ok flat ∧
        Run.exec (sampleNested.give none) Stage.sampleExchange =
          Run.exec (flat.give none) Stage.sampleExchange := by
  obtain ⟨asked, e₁, hreaches⟩ := reaches_sampleNested
  have hlaw := give_nested.1 Matcher.ask (Answer.give none) sampleNested Stage.sampleExchange
  have hinner : delegating sampleOthers (.answer (.redirect "/")) =
      .ok (.routed sampleOthers (.answer (.redirect "/"))) := rfl
  have houter : delegating sampleRoutes (.routed sampleOthers (.answer (.redirect "/"))) =
      .ok sampleNested := rfl
  obtain ⟨flat, hflat, hsame⟩ := give_nested.2.2.2 _ _ _ _ _ hinner houter
  exact ⟨⟨asked, e₁, hreaches, (hlaw.2.1 _ _ _ hreaches).2⟩, flat, hflat, (hsame none _).1⟩

end Success

end SignOut
