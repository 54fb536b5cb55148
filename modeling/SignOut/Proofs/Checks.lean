import SignOut.Stage

/-!
# The laws of checks

Arguments are checked one after another, and the first that is refused ends the attempt.  What is
accepted is passed on as it is: a check decides, it never changes its argument.  So the stage of a
configuration is known in advance, and every complete configuration has one.
-/

namespace SignOut

namespace Checks

variable {ε ε' α β : Type}

/-- A sequence of checks accepts iff both of its halves do. -/
theorem bind_eq_ok_iff {check : Except ε α} {next : α → Except ε β} {b : β} :
    (check >>= next) = .ok b ↔ ∃ a, check = .ok a ∧ next a = .ok b := by
  cases check with
  | error e =>
      constructor
      · intro h
        cases h
      · rintro ⟨a, ha, -⟩
        cases ha
  | ok a =>
      constructor
      · intro h
        exact ⟨a, rfl, h⟩
      · rintro ⟨a', ha, h⟩
        cases ha
        exact h

/-- A sequence of checks refuses iff its first half does, or that accepts and the second half
refuses. -/
theorem bind_eq_error_iff {check : Except ε α} {next : α → Except ε β} {e : ε} :
    (check >>= next) = .error e ↔
      check = .error e ∨ ∃ a, check = .ok a ∧ next a = .error e := by
  cases check with
  | error refusal =>
      constructor
      · intro h
        cases h
        exact Or.inl rfl
      · rintro (h | ⟨a, ha, -⟩)
        · cases h
          rfl
        · cases ha
  | ok a =>
      constructor
      · intro h
        exact Or.inr ⟨a, rfl, h⟩
      · rintro (h | ⟨a', ha, h⟩)
        · cases h
        · cases ha
          exact h

/-- Wrapping a refusal changes nothing about what is accepted. -/
theorem mapError_eq_ok_iff {check : Except ε α} {wrap : ε → ε'} {a : α} :
    check.mapError wrap = .ok a ↔ check = .ok a := by
  cases check with
  | error e =>
      constructor
      · intro h
        cases h
      · intro h
        cases h
  | ok b =>
      constructor
      · intro h
        cases h
        rfl
      · intro h
        cases h
        rfl

/-- What a wrapped check refuses is the refusal of the check, wrapped. -/
theorem mapError_eq_error_iff {check : Except ε α} {wrap : ε → ε'} {e' : ε'} :
    check.mapError wrap = .error e' ↔ ∃ e, check = .error e ∧ wrap e = e' := by
  cases check with
  | error e =>
      constructor
      · intro h
        cases h
        exact ⟨e, rfl, rfl⟩
      · rintro ⟨e, he, rfl⟩
        cases he
        rfl
  | ok a =>
      constructor
      · intro h
        cases h
      · rintro ⟨e, he, -⟩
        cases he

/-- A list whose members are only looked at is passed on as it is. -/
theorem mapM_eq_self {check : α → Except ε α} (hcheck : ∀ a b, check a = .ok b → b = a)
    {parts checked : List α} (h : parts.mapM check = .ok checked) : checked = parts := by
  induction parts generalizing checked with
  | nil =>
      cases h
      rfl
  | cons part rest ih =>
      rw [List.mapM_cons] at h
      obtain ⟨b, hpart, h⟩ := bind_eq_ok_iff.mp h
      obtain ⟨bs, hrest, h⟩ := bind_eq_ok_iff.mp h
      cases h
      rw [hcheck part b hpart, ih hrest]

/-- A value that must be given is accepted exactly if it is there, and as it is. -/
theorem given_eq_ok_iff {missing : Bool} {refusal : ε} {a checked : α} :
    (if missing then .error refusal else .ok a : Except ε α) = .ok checked ↔
      missing = false ∧ checked = a := by
  cases missing with
  | true => exact ⟨nofun, nofun⟩
  | false => exact ⟨fun h => ⟨rfl, (Except.ok.inj h).symm⟩, fun h => congrArg Except.ok h.2.symm⟩

/-- What is made of the members of a list is as many. -/
theorem length_eq_of_mapM {make : α → Except ε β} {parts : List α} {made : List β}
    (h : parts.mapM make = .ok made) : made.length = parts.length := by
  induction parts generalizing made with
  | nil =>
      cases h
      rfl
  | cons part rest ih =>
      rw [List.mapM_cons] at h
      obtain ⟨b, -, h⟩ := bind_eq_ok_iff.mp h
      obtain ⟨bs, hrest, h⟩ := bind_eq_ok_iff.mp h
      cases h
      rw [List.length_cons, List.length_cons, ih hrest]

/-- A list none of whose members is refused is accepted. -/
theorem mapM_of_forall {check : α → Except ε α} {parts : List α}
    (h : ∀ part ∈ parts, check part = .ok part) : parts.mapM check = .ok parts := by
  induction parts with
  | nil => rfl
  | cons part rest ih =>
      have hpart := h part List.mem_cons_self
      have hrest := ih fun other hmem => h other (List.mem_cons_of_mem _ hmem)
      rw [List.mapM_cons, hpart, hrest]
      rfl

/-- Every member of a list is accepted, or the list is not. -/
theorem mapM_eq_ok_iff {make : α → Except ε β} {parts : List α} {made : List β} :
    parts.mapM make = .ok made ↔ parts.map make = made.map .ok := by
  induction parts generalizing made with
  | nil =>
      constructor
      · intro h
        cases h
        rfl
      · intro h
        rw [List.map_eq_nil_iff.mp h.symm]
        rfl
  | cons part rest ih =>
      rw [List.mapM_cons]
      constructor
      · intro h
        obtain ⟨b, hpart, h⟩ := bind_eq_ok_iff.mp h
        obtain ⟨bs, hrest, h⟩ := bind_eq_ok_iff.mp h
        cases h
        rw [List.map_cons, List.map_cons, hpart, ih.mp hrest]
      · intro h
        cases made with
        | nil => cases h
        | cons b bs =>
            obtain ⟨hpart, hrest⟩ := List.cons.inj h
            rw [hpart, ih.mpr hrest]
            rfl

/-- A list is refused with the refusal of its first member that is. -/
theorem mapM_eq_error_iff {make : α → Except ε β} {parts : List α} {e : ε} :
    parts.mapM make = .error e ↔
      ∃ before part after made, parts = before ++ part :: after ∧
        before.mapM make = .ok made ∧ make part = .error e := by
  induction parts with
  | nil =>
      constructor
      · intro h
        cases h
      · rintro ⟨before, part, after, made, h, -⟩
        simp at h
  | cons part rest ih =>
      rw [List.mapM_cons]
      constructor
      · intro h
        rcases bind_eq_error_iff.mp h with hpart | ⟨b, hpart, h⟩
        · exact ⟨[], part, rest, [], rfl, rfl, hpart⟩
        rcases bind_eq_error_iff.mp h with hrest | ⟨bs, -, h⟩
        · obtain ⟨before, refused, after, made, rfl, hbefore, hrefused⟩ := ih.mp hrest
          refine ⟨part :: before, refused, after, b :: made, rfl, ?_, hrefused⟩
          rw [List.mapM_cons, hpart, hbefore]
          rfl
        · cases h
      · rintro ⟨before, refused, after, made, heq, hbefore, hrefused⟩
        cases before with
        | nil =>
            obtain ⟨rfl, rfl⟩ := List.cons.inj heq
            exact bind_eq_error_iff.mpr (Or.inl hrefused)
        | cons first before =>
            obtain ⟨rfl, rfl⟩ := List.cons.inj heq
            rw [List.mapM_cons] at hbefore
            obtain ⟨b, hfirst, hbefore⟩ := bind_eq_ok_iff.mp hbefore
            obtain ⟨bs, hbefore, -⟩ := bind_eq_ok_iff.mp hbefore
            have hrest := ih.mpr ⟨before, refused, after, bs, rfl, hbefore, hrefused⟩
            rw [hfirst, hrest]
            rfl

/-- A list is accepted iff every member of it is. -/
theorem exists_mapM_eq_ok_iff {make : α → Except ε β} {parts : List α} :
    (∃ made, parts.mapM make = .ok made) ↔ ∀ part ∈ parts, ∃ b, make part = .ok b := by
  constructor
  · rintro ⟨made, h⟩ part hmem
    have hmade : make part ∈ made.map .ok := mapM_eq_ok_iff.mp h ▸ List.mem_map_of_mem hmem
    obtain ⟨b, -, hb⟩ := List.mem_map.mp hmade
    exact ⟨b, hb.symm⟩
  · intro h
    cases hmade : parts.mapM make with
    | ok made => exact ⟨made, rfl⟩
    | error e =>
        obtain ⟨before, part, after, -, rfl, -, hpart⟩ := mapM_eq_error_iff.mp hmade
        obtain ⟨b, hb⟩ := h part (List.mem_append_right before List.mem_cons_self)
        rw [hb] at hpart
        cases hpart

/-- A list whose members are only looked at is accepted exactly if each of them is, and as it is. -/
theorem mapM_given_eq_ok_iff {check : α → Except ε α} {given : α → Prop}
    (hcheck : ∀ a b, check a = .ok b ↔ given a ∧ b = a) {parts checked : List α} :
    parts.mapM check = .ok checked ↔ (∀ part ∈ parts, given part) ∧ checked = parts := by
  constructor
  · intro h
    obtain rfl := mapM_eq_self (fun a b hok => ((hcheck a b).mp hok).2) h
    have hmap := List.map_inj_left.mp (mapM_eq_ok_iff.mp h)
    exact ⟨fun part hmem => ((hcheck part part).mp (hmap part hmem)).1, rfl⟩
  · rintro ⟨hgiven, rfl⟩
    exact mapM_of_forall fun part hmem => (hcheck part part).mpr ⟨hgiven part hmem, rfl⟩

end Checks

theorem InvalidArgument.eq_some_of_require {α : Type} {value : Option α} {argument : String}
    {a : α} (h : InvalidArgument.require value argument = .ok a) : value = some a := by
  cases value with
  | none => cases h
  | some b =>
      cases h
      rfl

theorem Matcher.require_eq_ok_iff {matcher checked : Matcher} {argument : String} :
    Matcher.require matcher argument = .ok checked ↔
      matcher.isNothing = false ∧ checked = matcher :=
  Checks.given_eq_ok_iff

theorem Handler.require_eq_ok_iff {handler checked : Handler} {argument : String} :
    Handler.require handler argument = .ok checked ↔
      handler.isNothing = false ∧ checked = handler :=
  Checks.given_eq_ok_iff

/-- A handler that is accepted is given and has the operation of one. -/
theorem Handler.fit_of_requireFit {handler checked : Handler} {argument : String}
    (h : Handler.requireFit handler argument = .ok checked) :
    handler.isNothing = false ∧ handler.unfitType? = none ∧ checked = handler := by
  obtain ⟨given, hgiven, hfit⟩ := Checks.bind_eq_ok_iff.mp h
  obtain ⟨hthere, rfl⟩ := Handler.require_eq_ok_iff.mp hgiven
  split at hfit
  · rename_i hnone
    exact ⟨hthere, hnone, (Except.ok.inj hfit).symm⟩
  · cases hfit

theorem Success.require_eq_ok_iff {success checked : Success} {argument : String} :
    Success.require success argument = .ok checked ↔
      success.isNothing = false ∧ checked = success :=
  Checks.given_eq_ok_iff

/-- A success handler that is accepted is given and has the operation of one. -/
theorem Success.fit_of_requireFit {success checked : Success} {argument : String}
    (h : Success.requireFit success argument = .ok checked) :
    success.isNothing = false ∧ success.unfitType? = none ∧ checked = success := by
  obtain ⟨given, hgiven, hfit⟩ := Checks.bind_eq_ok_iff.mp h
  obtain ⟨hthere, rfl⟩ := Success.require_eq_ok_iff.mp hgiven
  split at hfit
  · rename_i hnone
    exact ⟨hthere, hnone, (Except.ok.inj hfit).symm⟩
  · cases hfit

theorem Success.eq_of_requireRoute {route checked : Matcher × Success}
    (h : Success.requireRoute route = .ok checked) : checked = route := by
  obtain ⟨matcher, hmatcher, h⟩ := Checks.bind_eq_ok_iff.mp h
  obtain ⟨target, htarget, h⟩ := Checks.bind_eq_ok_iff.mp h
  cases h
  rw [(Matcher.require_eq_ok_iff.mp hmatcher).2, (Success.require_eq_ok_iff.mp htarget).2]

/-- A configuration that is complete is passed on as it is. -/
theorem Configuration.eq_of_check {c checked : Configuration} (h : c.check = .ok checked) :
    checked = c := by
  unfold Configuration.check at h
  split at h
  · cases h
  split at h
  · cases h
  split at h
  · cases h
  · cases h
    rfl

/-- The stage of a configuration runs its handlers as one chain and dispatches over its routes. -/
theorem Stage.eq_of_ofConfiguration {c : Configuration} {s : Stage}
    (h : Stage.ofConfiguration c = .ok s) :
    s = { configuration := c, handler := .many c.handlers
          success := .routed c.routes c.fallback } := by
  obtain ⟨handler, hhandler, h⟩ := Checks.bind_eq_ok_iff.mp h
  obtain ⟨success, hsuccess, h⟩ := Checks.bind_eq_ok_iff.mp h
  cases h
  obtain ⟨handlers, hhandlers, hhandler⟩ := Checks.bind_eq_ok_iff.mp hhandler
  obtain ⟨routes, hroutes, hsuccess⟩ := Checks.bind_eq_ok_iff.mp hsuccess
  obtain ⟨fallback, hfallback, hsuccess⟩ := Checks.bind_eq_ok_iff.mp hsuccess
  cases hhandler
  cases hsuccess
  rw [Checks.mapM_eq_self (fun _ _ h => (Handler.require_eq_ok_iff.mp h).2) hhandlers,
    Checks.mapM_eq_self (fun _ _ => Success.eq_of_requireRoute) hroutes,
    (Success.require_eq_ok_iff.mp hfallback).2]

/-- Every complete configuration has a stage. -/
theorem Stage.exists_of_check {c : Configuration} (h : c.check = .ok c) :
    ∃ s, Stage.ofConfiguration c = .ok s := by
  unfold Configuration.check at h
  split at h
  · cases h
  rename_i hhandlers
  split at h
  · cases h
  rename_i hroutes
  split at h
  · cases h
  rename_i hfallback
  have hgiven : c.handlers.mapM (fun handler => Handler.require handler "handler") =
      .ok c.handlers := by
    refine Checks.mapM_of_forall fun handler hmem => if_neg fun hnothing => ?_
    exact hhandlers (List.any_eq_true.mpr ⟨handler, hmem, hnothing⟩)
  have hwhole : c.routes.mapM Success.requireRoute = .ok c.routes := by
    refine Checks.mapM_of_forall fun route hmem => ?_
    have hparts : Configuration.lacksPart route = false :=
      Bool.eq_false_iff.mpr fun hlacks =>
        hroutes (List.any_eq_true.mpr ⟨route, hmem, hlacks⟩)
    obtain ⟨hmatcher, htarget⟩ := Bool.or_eq_false_iff.mp hparts
    unfold Success.requireRoute Matcher.require Success.require
    rw [hmatcher, htarget]
    rfl
  have hdefault : Success.require c.fallback "default_handler" = .ok c.fallback :=
    if_neg hfallback
  unfold Stage.ofConfiguration Handler.composite Success.delegating
  rw [hgiven, hwhole, hdefault]
  exact ⟨_, rfl⟩

end SignOut
