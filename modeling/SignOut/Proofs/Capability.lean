import SignOut.Proofs.Origin
import SignOut.Proofs.Script

/-!
# Values that lack their operation

A value in the place of a matcher, a handler or a success handler may lack the operation for which
the stage comes to it.  Such a value is refused when a call hands it over by itself, so nothing of
the kind is ever a whole route, handler or success handler of a built stage.  The check does not
look into combinations: there, a value without its operation passes unless it is no value at all,
and the stage comes to a stop when it meets it.  A handler of this kind is met by every sign-out,
so a chain with one in it never answers.
-/

namespace SignOut

/-- The fault at a part that lacks its operation. -/
def Part.unfitFault? : Part → Option Fault
  | .matcher (.foreign value) => some (.lacks value.typeName "matches")
  | .handler (.foreign value) => some (.lacks value.typeName "logout")
  | .handler (.unawaited _) => some .notAwaitable
  | .success (.foreign value) => some (.lacks value.typeName "on_logout_success")
  | .success (.unawaited _) => some .notAwaitable
  | _ => none

/-- A part that lacks its operation does nothing but stop. -/
theorem Part.exec_run_of_unfitFault? {part : Part} {fault : Fault}
    (h : part.unfitFault? = some fault) (principal : Option Principal) (e : Exchange) :
    Run.exec (part.run principal) e = (.error fault, e) := by
  cases part with
  | matcher atom =>
      cases atom with
      | foreign value =>
          cases h
          rfl
      | _ => cases h
  | handler action =>
      cases action with
      | unawaited typeName =>
          cases h
          rfl
      | foreign value =>
          cases h
          rfl
      | _ => cases h
  | success answer =>
      cases answer with
      | unawaited typeName =>
          cases h
          rfl
      | foreign value =>
          cases h
          rfl
      | _ => cases h

/-! ## Offers -/

/-- A value that a call hands over in the place of a collaborator. -/
inductive Offer where
  | matcher (m : Matcher)
  | handler (h : Handler)
  | success (s : Success)

namespace Offer

/-- The parts of an offer. -/
def parts : Offer → List Part
  | .matcher m => m.toParts
  | .handler h => h.toParts
  | .success s => s.toParts

/-- The part that an offer is by itself; a combination is none. -/
def single? : Offer → Option Part
  | .matcher (.atom atom) => some (.matcher atom)
  | .handler (.one action) => some (.handler action)
  | .success (.answer answer) => some (.success answer)
  | _ => none

/-- The type of the value that is offered, where it lacks its operation. -/
def unfitType? : Offer → Option String
  | .matcher m => m.foreignType?
  | .handler h => h.unfitType?
  | .success s => s.unfitType?

/-- What is offered is a combination, or it is a part by itself and has no others. -/
theorem single?_eq_none_or_parts_eq (offer : Offer) :
    offer.single? = none ∨ ∃ part, offer.single? = some part ∧ offer.parts = [part] := by
  cases offer with
  | matcher m =>
      cases m with
      | atom atom => exact Or.inr ⟨.matcher atom, rfl, rfl⟩
      | _ => exact Or.inl rfl
  | handler h =>
      cases h with
      | one action => exact Or.inr ⟨.handler action, rfl, rfl⟩
      | many parts => exact Or.inl rfl
  | success s =>
      cases s with
      | answer answer => exact Or.inr ⟨.success answer, rfl, rfl⟩
      | routed routes fallback => exact Or.inl rfl

/-- The check of an offer finds a part by itself that lacks its operation. -/
theorem exists_unfitType? {offer : Offer} {part : Part} {fault : Fault}
    (hsingle : offer.single? = some part) (hunfit : part.unfitFault? = some fault) :
    ∃ typeName, offer.unfitType? = some typeName := by
  cases offer with
  | matcher m =>
      cases m with
      | atom atom =>
          cases hsingle
          cases atom with
          | foreign value => exact ⟨_, rfl⟩
          | _ => cases hunfit
      | _ => cases hsingle
  | handler h =>
      cases h with
      | one action =>
          cases hsingle
          cases action with
          | unawaited typeName => exact ⟨_, rfl⟩
          | foreign value => exact ⟨_, rfl⟩
          | _ => cases hunfit
      | many parts => cases hsingle
  | success s =>
      cases s with
      | answer answer =>
          cases hsingle
          cases answer with
          | unawaited typeName => exact ⟨_, rfl⟩
          | foreign value => exact ⟨_, rfl⟩
          | _ => cases hunfit
      | routed routes fallback => cases hsingle

end Offer

namespace Options

/-- The values that a call on the options hands over in the place of collaborators. -/
def Call.offers : Call → List Offer
  | .setRequestMatcher matcher => [.matcher matcher]
  | .addHandler handler => [.handler handler]
  | .addSuccessRoute success matcher => [.success success, .matcher matcher]
  | .setDefaultSuccessHandler success => [.success success]
  | _ => []

/-- A call that is accepted offers nothing that lacks its operation by itself. -/
theorem unfitType?_of_apply {c next : Options} {call : Call} (h : c.apply call = .ok next)
    {offer : Offer} (hoffer : offer ∈ call.offers) : offer.unfitType? = none := by
  cases call with
  | setRequestMatcher matcher =>
      rw [List.mem_singleton.mp hoffer]
      obtain ⟨given, hgiven, -⟩ := Checks.bind_eq_ok_iff.mp h
      exact (fit_of_requireMatcher hgiven).2.1
  | addHandler handler =>
      rw [List.mem_singleton.mp hoffer]
      obtain ⟨given, hgiven, -⟩ := Checks.bind_eq_ok_iff.mp h
      exact (Handler.fit_of_requireFit hgiven).2.1
  | addSuccessRoute success matcher =>
      obtain ⟨given, hgiven, h⟩ := Checks.bind_eq_ok_iff.mp h
      obtain ⟨asked, hasked, -⟩ := Checks.bind_eq_ok_iff.mp h
      rcases List.mem_cons.mp hoffer with rfl | hoffer
      · exact (Success.fit_of_requireFit hgiven).2.1
      · rw [List.mem_singleton.mp hoffer]
        exact (fit_of_requireMatcher hasked).2.1
  | setDefaultSuccessHandler success =>
      rw [List.mem_singleton.mp hoffer]
      obtain ⟨given, hgiven, -⟩ := Checks.bind_eq_ok_iff.mp h
      exact (Success.fit_of_requireFit hgiven).2.1
  | _ => cases hoffer

/-- A call that offers a part by itself that lacks its operation is refused. -/
theorem exists_refusal_of_unfit (c : Options) {call : Call} {offer : Offer} {part : Part}
    {fault : Fault} (hoffer : offer ∈ call.offers) (hsingle : offer.single? = some part)
    (hunfit : part.unfitFault? = some fault) : ∃ refusal, c.apply call = .error refusal := by
  cases happly : c.apply call with
  | error refusal => exact ⟨refusal, rfl⟩
  | ok next =>
      obtain ⟨typeName, htype⟩ := Offer.exists_unfitType? hsingle hunfit
      cases htype.symm.trans (unfitType?_of_apply happly hoffer)

end Options

namespace Assembly

variable {a : Assembly} {history : List Call} {filter : StageFilter} {c : Configuration}

/-- A part that lacks its operation stands in a combination that a call with effect offered. -/
def Nested (history : List Call) (part : Part) : Prop :=
  ∃ call ∈ optionCalls history, ∃ offer ∈ call.offers, offer.single? = none ∧ part ∈ offer.parts

/-- If a call with effect offered a part that lacks its operation, it did so in a combination. -/
theorem nested_of_mem_offers {call : Options.Call} (hcall : call ∈ optionCalls history)
    {offer : Offer} (hoffer : offer ∈ call.offers) {part : Part} (hpart : part ∈ offer.parts)
    {fault : Fault} (hunfit : part.unfitFault? = some fault) : Nested history part := by
  refine ⟨call, hcall, offer, hoffer, ?_, hpart⟩
  rcases offer.single?_eq_none_or_parts_eq with hnone | ⟨single, hsingle, hparts⟩
  · exact hnone
  · -- a part by itself is refused, and then its call is none with effect
    rw [hparts] at hpart
    rw [List.mem_singleton.mp hpart] at hunfit
    obtain ⟨refusal, hrefusal⟩ :=
      Options.exists_refusal_of_unfit .initial hoffer hsingle hunfit
    have haccepted : (Options.initial.apply call).isOk = true := isAccepted_of_mem_optionCalls hcall
    rw [hrefusal] at haccepted
    cases haccepted

/-- What a history appends to its chain has the operation of a handler. -/
theorem unfitFault?_of_appended {handler : Handler} (h : Appended history handler) {part : Part}
    (hpart : part ∈ handler.toParts) : part.unfitFault? = none := by
  cases h with
  | @services services _ hgiven hhandler hfit =>
      cases services with
      | withLogout =>
          cases hhandler
          rw [List.mem_singleton.mp hpart]
          rfl
      | custom collaborator =>
          cases hhandler
          rw [List.mem_singleton.mp hpart]
          rfl
      | unawaited =>
          cases hhandler
          cases hfit
      | only => cases hhandler
      | object => cases hhandler
      | withdrawn => cases hhandler
  | token hprotects hgiven =>
      rw [List.mem_singleton.mp hpart]
      rfl
  | context =>
      rw [List.mem_singleton.mp hpart]
      rfl
  | event hgiven =>
      rw [List.mem_singleton.mp hpart]
      rfl

/-- A part of the request matcher that lacks its operation was offered in a combination. -/
theorem nested_of_mem_matcher (h : (initial.applyAll history).buildConfiguration = .ok c)
    {part : Part} (hpart : part ∈ c.matcher.toParts) {fault : Fault}
    (hunfit : part.unfitFault? = some fault) : Nested history part := by
  rw [matcher_of_buildConfiguration h] at hpart
  cases hkept : (givenMatcher history).filter Matcher.isTrue with
  | none =>
      rw [hkept] at hpart
      rw [List.mem_singleton.mp hpart] at hunfit
      cases hunfit
  | some matcher =>
      rw [hkept] at hpart
      obtain ⟨hgiven, -⟩ := Option.filter_eq_some_iff.mp hkept
      obtain ⟨call, hcall, hmatcher⟩ := exists_mem_of_lastGiven hgiven
      cases call with
      | setRequestMatcher given =>
          cases hmatcher
          exact nested_of_mem_offers hcall (List.mem_singleton_self _) hpart hunfit
      | _ => cases hmatcher

/-- A part of a handler that lacks its operation was offered in a combination. -/
theorem nested_of_mem_handler (h : (initial.applyAll history).buildConfiguration = .ok c)
    {handler : Handler} (hmem : handler ∈ c.handlers) {part : Part} (hpart : part ∈ handler.toParts)
    {fault : Fault} (hunfit : part.unfitFault? = some fault) : Nested history part := by
  obtain ⟨appended, hhandlers, happended⟩ := exists_appended h
  rw [hhandlers] at hmem
  rcases List.mem_append.mp hmem with hadded | hmem
  · obtain ⟨call, hcall, hhandler⟩ := List.mem_filterMap.mp hadded
    cases call with
    | addHandler given =>
        cases hhandler
        exact nested_of_mem_offers hcall (List.mem_singleton_self _) hpart hunfit
    | deleteCookies names =>
        cases hhandler
        rw [List.mem_singleton.mp hpart] at hunfit
        cases hunfit
    | addSessionStore removal =>
        obtain ⟨s, -, rfl⟩ := Option.map_eq_some_iff.mp hhandler
        rw [List.mem_singleton.mp hpart] at hunfit
        cases hunfit
    | _ => cases hhandler
  · cases (unfitFault?_of_appended (happended handler hmem) hpart).symm.trans hunfit

/-- A part of a success handler that lacks its operation was offered in a combination. -/
theorem nested_of_mem_success (h : (initial.applyAll history).buildConfiguration = .ok c)
    {part : Part} (hpart : part ∈ Success.toParts (.routed c.routes c.fallback)) {fault : Fault}
    (hunfit : part.unfitFault? = some fault) : Nested history part := by
  have hroute : ∀ {matcher success}, (matcher, success) ∈ addedRoutes history →
      part ∈ matcher.toParts ∨ part ∈ success.toParts → Nested history part := by
    intro matcher success hmem hpart
    obtain ⟨call, hcall, hroute⟩ := List.mem_filterMap.mp hmem
    cases call with
    | addSuccessRoute given asked =>
        cases hroute
        rcases hpart with hpart | hpart
        · exact nested_of_mem_offers hcall (List.mem_cons_of_mem _ (List.mem_singleton_self _))
            hpart hunfit
        · exact nested_of_mem_offers hcall List.mem_cons_self hpart hunfit
    | _ => cases hroute
  rcases List.mem_append.mp hpart with hroutes | hfallback
  · obtain ⟨⟨matcher, success⟩, hmem, hparts⟩ := Success.mem_partsOf.mp hroutes
    rw [routes_of_buildConfiguration h] at hmem
    exact hroute hmem hparts
  · have hanswering := answering_fallback h
    generalize c.fallback = fallback at hfallback hanswering
    cases hanswering with
    | route hmem => exact hroute hmem (Or.inr hfallback)
    | given hgiven =>
        obtain ⟨call, hcall, hsuccess⟩ := exists_mem_of_lastGiven hgiven
        cases call with
        | setDefaultSuccessHandler given =>
            cases hsuccess
            exact nested_of_mem_offers hcall (List.mem_singleton_self _) hfallback hunfit
        | _ => cases hsuccess
    | redirect hurl =>
        rw [List.mem_singleton.mp hfallback] at hunfit
        cases hunfit
    | negotiated =>
        rw [List.mem_singleton.mp hfallback] at hunfit
        cases hunfit

/-- Every part of a built stage that lacks its operation was offered in a combination. -/
theorem nested_of_mem_parts (h : (initial.applyAll history).buildConfiguration = .ok c)
    {part : Part} (hpart : part ∈ c.parts) {fault : Fault}
    (hunfit : part.unfitFault? = some fault) : Nested history part := by
  rcases Configuration.mem_parts.mp hpart with hmatcher | ⟨handler, hmem, hhandler⟩ | hsuccess
  · exact nested_of_mem_matcher h hmatcher hunfit
  · exact nested_of_mem_handler h hmem hhandler hunfit
  · exact nested_of_mem_success h hsuccess hunfit

/-! ## What the checks at startup leave open -/

/-- A chain with a handler that lacks its operation never completes. -/
theorem not_answers_of_unfit_handler (hbuilt : (initial.applyAll history).build.result = .ok filter)
    {handler : Handler} {action : Handler.Action} {fault : Fault}
    (hmem : handler ∈ addedHandlers history) (haction : action ∈ handler.actions)
    (hunfit : (Part.handler action).unfitFault? = some fault) (principal : Option Principal)
    (e e' : Exchange) (response : Response) :
    Run.exec (filter.process principal) e ≠ (.ok (some response), e') := by
  intro hprocess
  obtain ⟨e₁, e₂, hcompleted⟩ := completes_of_mem_addedHandlers hbuilt hprocess hmem haction
  cases (Part.exec_run_of_unfitFault? hunfit principal e₁).symm.trans hcompleted

/-- What the checks at startup achieve.  A call that offers a value by itself that lacks its
operation is refused, whatever was collected before.  So a filter that was built stops for want of
an operation only at a part of a combination that was offered, and if no combination has such a
part, it never does.  But a combination is not looked into: a chain with a handler inside one that
lacks its operation is built like any other, and it never answers a request. -/
theorem unfit_only_nested (hleft : a.LeftBy history) (hbuilt : a.build.result = .ok filter) :
    (∀ (o : Options) {call offer part fault}, offer ∈ Options.Call.offers call →
      offer.single? = some part → part.unfitFault? = some fault →
      ∃ refusal, o.apply call = .error refusal) ∧
    (∀ {principal e part e₁ fault}, filter.Meets principal e part e₁ →
      part.unfitFault? = some fault →
      Run.exec (filter.process principal) e = (.error fault, e₁) ∧ Nested history part) ∧
    ((∀ part, Nested history part → part.unfitFault? = none) →
      ∀ {principal e part e₁}, filter.Meets principal e part e₁ → part.unfitFault? = none) ∧
    ∀ {handler action fault}, .addHandler handler ∈ optionCalls history →
      action ∈ handler.actions → (Part.handler action).unfitFault? = some fault →
      ∀ principal e e' response,
        Run.exec (filter.process principal) e ≠ (.ok (some response), e') := by
  obtain rfl := hleft.eq
  obtain ⟨c, hc, -, hbare⟩ := exists_configuration_of_build hbuilt
  have hnested : ∀ {principal e part e₁ fault}, filter.Meets principal e part e₁ →
      part.unfitFault? = some fault → Nested history part := by
    intro principal e part e₁ fault hmeets hunfit
    have hpart := hmeets.mem_parts
    unfold StageFilter.parts at hpart
    rw [hbare] at hpart
    exact nested_of_mem_parts hc hpart hunfit
  refine ⟨?_, ?_, ?_, ?_⟩
  · intro o call offer part fault hoffer hsingle hunfit
    exact Options.exists_refusal_of_unfit o hoffer hsingle hunfit
  · intro principal e part e₁ fault hmeets hunfit
    exact ⟨exec_process_of_meets hbuilt hmeets (Part.exec_run_of_unfitFault? hunfit principal e₁),
      hnested hmeets hunfit⟩
  · intro hsound principal e part e₁ hmeets
    cases hfault : part.unfitFault? with
    | none => rfl
    | some fault => cases (hsound part (hnested hmeets hfault)).symm.trans hfault
  · intro handler action fault hcall haction hunfit
    have hadded : handler ∈ addedHandlers history := List.mem_filterMap.mpr ⟨_, hcall, rfl⟩
    exact not_answers_of_unfit_handler hbuilt hadded haction hunfit

/-- A script with a handler in a combination that lacks its operation. -/
def sampleUnfit : List Operation :=
  [.make (.logout [.ok (.addHandler (.many [.one (.foreign .object)]))])]

/-- A script with a combination all of whose parts have their operation. -/
def sampleFit : List Operation :=
  [.make (.logout [.ok (.addHandler (.many [.one .forgetUser]))])]

theorem unfit_only_nested_sample :
    (∃ filter : StageFilter, (initial.perform sampleUnfit).build.result = .ok filter ∧
      (∃ refusal, Options.initial.apply (.addHandler (.one (.foreign .object))) = .error refusal) ∧
      Nested (madeCalls sampleUnfit) (.handler (.foreign .object)) ∧
      ∀ principal e e' response,
        Run.exec (filter.process principal) e ≠ (.ok (some response), e')) ∧
    ∃ filter : StageFilter, (initial.perform sampleFit).build.result = .ok filter ∧
      ∀ principal e part e₁, filter.Meets principal e part e₁ → part.unfitFault? = none := by
  refine ⟨?_, ?_⟩
  · have hbuilt : ∃ s, (initial.applyAll (madeCalls sampleUnfit)).build.result =
        .ok (StageFilter.stage s) := ⟨_, rfl⟩
    obtain ⟨s, hs⟩ := hbuilt
    have hmeets := meets_of_selects hs rfl (selects_sampleExchange rfl) rfl none
    obtain ⟨hrefused, hstops, -, hnever⟩ := unfit_only_nested (.script .fresh sampleUnfit) hs
    exact ⟨.stage s, hs, hrefused .initial List.mem_cons_self rfl rfl,
      (hstops hmeets rfl).2,
      hnever List.mem_cons_self (List.mem_singleton_self _) rfl⟩
  · have hbuilt : ∃ s, (initial.perform sampleFit).build.result = .ok (StageFilter.stage s) :=
      ⟨_, rfl⟩
    obtain ⟨s, hs⟩ := hbuilt
    have hsound : ∀ part, Nested (madeCalls sampleFit) part → part.unfitFault? = none := by
      rintro part ⟨call, hcall, offer, hoffer, -, hpart⟩
      cases List.mem_singleton.mp hcall
      cases List.mem_singleton.mp hoffer
      cases List.mem_singleton.mp hpart
      rfl
    refine ⟨.stage s, hs, fun principal e part e₁ hmeets => ?_⟩
    exact (unfit_only_nested (.script .fresh sampleFit) hs).2.2.1 hsound hmeets

/-- A history can build although a handler that it brings in lacks its operation: inside a
combination this is not noticed before the first request is signed out, and that stops. -/
theorem stops_at_nested_object :
    ∃ filter : StageFilter, (initial.perform sampleUnfit).build.result = .ok filter ∧ ∀ principal,
      filter.Meets principal Stage.sampleExchange (.handler (.foreign .object))
        Stage.sampleExchange.opened ∧
      Run.exec (filter.process principal) Stage.sampleExchange =
        (.error (.lacks "object" "logout"), Stage.sampleExchange.opened) := by
  have hbuilt : ∃ s, (initial.applyAll (madeCalls sampleUnfit)).build.result =
      .ok (StageFilter.stage s) := ⟨_, rfl⟩
  obtain ⟨s, hs⟩ := hbuilt
  refine ⟨.stage s, hs, fun principal => ?_⟩
  have hmeets := meets_of_selects hs rfl (selects_sampleExchange rfl) rfl principal
  exact ⟨hmeets, exec_process_of_meets hs hmeets rfl⟩

end Assembly

end SignOut
