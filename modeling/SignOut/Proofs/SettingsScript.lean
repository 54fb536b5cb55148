import SignOut.Proofs.Buildable
import SignOut.Proofs.Clearing
import SignOut.Proofs.StickyPath

/-!
# Scripts that start from settings

Settings are applied through the same calls that a script makes, and each kind of call has its own
rule: of several paths the first stays, of several switches the last one, and handlers are put one
behind the other.  What settings amount to therefore depends on what is called later, and it does so
in three ways.  Their handlers stay in front; their switches stay until a later call says otherwise;
and their path stays for good, unless it is the default, which is never set and gives way to the
first path that is.  The only settings that cannot be applied are those with a cookie that has no
name.
-/

namespace SignOut

/-! ## Values given by two histories -/

section Given

variable {α β : Type} (value? : α → Option β)

/-- The first history decides if it gives a value. -/
theorem firstGiven_append (calls more : List α) :
    firstGiven value? (calls ++ more) = (firstGiven value? calls).or (firstGiven value? more) := by
  unfold firstGiven
  rw [List.filterMap_append, List.head?_append]

/-- The second history decides if it gives a value. -/
theorem lastGiven_append (calls more : List α) :
    lastGiven value? (calls ++ more) = (lastGiven value? more).or (lastGiven value? calls) := by
  unfold lastGiven
  rw [List.filterMap_append, List.getLast?_append]

end Given

/-! ## Customizations that are refused -/

namespace Options

/-- A customization ends at the first call that is refused, whatever the options are. -/
theorem obstacle_customize_of_refused {before after : List Call} {call : Call}
    {e : InvalidArgument} (hbefore : ∀ earlier ∈ before, earlier.isAccepted = true)
    (hrefused : ∀ c : Options, c.apply call = .error e) (c : Options) :
    (c.customize ((before ++ call :: after).map Except.ok)).obstacle = some (.refused e) := by
  induction before generalizing c with
  | nil => simp [customize, hrefused c]
  | cons first rest ih =>
      have hfirst := hbefore first List.mem_cons_self
      rw [← isOk_apply c] at hfirst
      rw [List.cons_append, List.map_cons, customize]
      cases happly : c.apply first with
      | error refusal =>
          rw [happly] at hfirst
          cases hfirst
      | ok next => exact ih (fun earlier hmem => hbefore earlier (List.mem_cons_of_mem _ hmem)) next

/-- A customization whose calls are all accepted meets no obstacle. -/
theorem obstacle_customize_of_accepted {calls : List Call}
    (h : ∀ call ∈ calls, call.isAccepted = true) (c : Options) :
    (c.customize (calls.map Except.ok)).obstacle = none := by
  induction calls generalizing c with
  | nil => rfl
  | cons first rest ih =>
      have hfirst := h first List.mem_cons_self
      rw [← isOk_apply c] at hfirst
      rw [List.map_cons, customize]
      cases happly : c.apply first with
      | error refusal =>
          rw [happly] at hfirst
          cases hfirst
      | ok next => exact ih (fun call hmem => h call (List.mem_cons_of_mem _ hmem)) next

/-- The refusal of a cookie without a name. -/
def emptyCookieName : InvalidArgument :=
  { argument := "cookie_names", fault := .emptyCookieName }

theorem all_named_iff {names : List String} :
    ((names.map some).all fun name => decide (name.getD "" ≠ "")) = true ↔ "" ∉ names := by
  rw [List.all_map, List.all_eq_true]
  constructor
  · intro h hmem
    have hnamed := h "" hmem
    simp at hnamed
  · intro h name hmem
    exact decide_eq_true fun heq => h (heq ▸ hmem)

/-- Cookies are accepted if each of them has a name. -/
theorem isAccepted_deleteCookies_iff {names : List String} :
    (Call.deleteCookies (names.map some)).isAccepted = true ↔ "" ∉ names := by
  rw [← all_named_iff, Call.isAccepted, apply, Handler.ofCookies]
  split
  · rename_i hnamed
    exact ⟨fun _ => hnamed, fun _ => rfl⟩
  · rename_i hnamed
    exact ⟨nofun, fun h => absurd h hnamed⟩

theorem apply_deleteCookies_of_empty {names : List String} (h : "" ∈ names) (c : Options) :
    c.apply (.deleteCookies (names.map some)) = .error emptyCookieName := by
  have hunnamed := mt all_named_iff.mp (not_not_intro h)
  rw [apply, Handler.ofCookies, if_neg hunnamed]
  rfl

/-! ## The handlers of the surroundings -/

theorem tokenHandlers_eq (around : Surroundings) :
    tokenHandlers around =
      if around.csrfEnabled then
        around.repository.toList.map fun repository => .one (.clearToken repository)
      else [] := by
  unfold tokenHandlers
  cases around.csrfEnabled <;> cases around.repository <;> rfl

theorem eventHandlers_eq (around : Surroundings) :
    eventHandlers around =
      around.publisher.toList.map fun publisher => .one (.publishEvent publisher) := by
  unfold eventHandlers
  cases around.publisher <;> rfl

end Options

/-! ## Settings -/

namespace Settings

/-- Settings are valid if both paths start with a slash. -/
structure Valid (s : Settings) : Prop where
  logoutPath : s.logoutPath.toList.head? = some '/'
  loginPath : s.loginPath.toList.head? = some '/'

variable {s : Settings} {store : Bool}

/-- The handlers that settings bring in: the one that expires their cookies, if they name any, and
with a session store the one that removes the stored session under their prefix. -/
def handlers (s : Settings) (store : Bool) : List Handler :=
  (if s.deleteCookies = [] then []
    else [.one (.expireCookies s.deleteCookies (some "/") none)]) ++
  (if store then [.one (.removeSession s.sessionRemoval)] else [])

/-- The configuration that settings describe by themselves. -/
def configuration (s : Settings) (store : Bool) : Configuration :=
  { logoutPath := some s.logoutPath
    methods := allowedMethods s.csrfEnabled
    matcher := .atom (.logout s.logoutPath (allowedMethods s.csrfEnabled))
    handlers := s.handlers store ++
      [.one (.clearContext (.ofBool s.invalidateSession) (.ofBool s.clearAuthentication))]
    routes := []
    fallback := .answer (.negotiating s.loginPath)
    loginPath := some s.loginPath }

/-- The options that settings stand for. -/
def options (s : Settings) (store : Bool) : Options :=
  { Options.initial with
    path := if s.logoutPath = defaultLogoutPath then none else some s.logoutPath
    handlers := s.handlers store
    invalidateSession := .ofBool s.invalidateSession
    clearAuthentication := .ofBool s.clearAuthentication }

/-- The calls that settings stand for leave their options. -/
theorem ofCalls_optionCalls (s : Settings) (store : Bool) :
    Options.ofCalls (s.optionCalls store) = s.options store := by
  have hcookies : s.deleteCookies.isEmpty = true ↔ s.deleteCookies = [] := List.isEmpty_iff
  unfold Options.ofCalls firstGiven lastGiven options handlers optionCalls
  simp only [hcookies]
  split <;> split <;> split <;> simp [List.filterMap_cons, Options.initial]

/-- The path that settings set is in effect, or the default if it is the path of the settings. -/
theorem effectivePath_options (s : Settings) (store : Bool) :
    (s.options store).effectivePath = s.logoutPath := by
  unfold Options.effectivePath options
  split
  · rename_i hdefault
    exact hdefault.symm
  · rfl

/-! ### The values that can be loaded -/

namespace Checked

variable {α β : Type}

theorem give_eq_ok_iff {f : Checked (α → β)} {x : Checked α} {b : β} :
    give f x = .ok b ↔ ∃ g a, f = .ok g ∧ x = .ok a ∧ b = g a := by
  cases f with
  | error earlier => cases x <;> simp [give]
  | ok g =>
      cases x with
      | error later => simp [give]
      | ok a => simp [give, eq_comm]

theorem head?_of_path {place : List String} {value : Json} {text : String}
    (h : path place value = .ok text) : text.toList.head? = some '/' := by
  unfold path at h
  split at h
  · split at h
    · rename_i hslash
      cases h
      exact hslash
    · cases h
  · cases h

theorem textItems_map_string (place : List String) (position : Nat) (items : List String) :
    textItems place position (items.map .string) = .ok items := by
  induction items generalizing position with
  | nil => rfl
  | cons item rest ih =>
      rw [List.map_cons, textItems, ih]
      rfl

end Checked

theorem head?_of_fieldOr_path {values : Values} {field : Field} {default text : String}
    (h : fieldOr values field default Checked.path = .ok text)
    (hdefault : default.toList.head? = some '/') : text.toList.head? = some '/' := by
  unfold fieldOr at h
  split at h
  · cases h
    exact hdefault
  · exact Checked.head?_of_path h

/-- Values are read field by field, and each field was read on its own. -/
theorem valid_of_ofValues {values : Values} (h : ofValues values = .ok s) : s.Valid := by
  obtain ⟨_, keyPrefix, h₆, -, heq⟩ := Checked.give_eq_ok_iff.mp h
  obtain ⟨_, cookies, h₅, -, rfl⟩ := Checked.give_eq_ok_iff.mp h₆
  obtain ⟨_, user, h₄, -, rfl⟩ := Checked.give_eq_ok_iff.mp h₅
  obtain ⟨_, session, h₃, -, rfl⟩ := Checked.give_eq_ok_iff.mp h₄
  obtain ⟨_, csrf, h₂, -, rfl⟩ := Checked.give_eq_ok_iff.mp h₃
  obtain ⟨_, loginPath, h₁, hlogin, rfl⟩ := Checked.give_eq_ok_iff.mp h₂
  obtain ⟨_, logoutPath, hmade, hlogout, rfl⟩ := Checked.give_eq_ok_iff.mp h₁
  cases hmade
  rw [heq]
  exact ⟨head?_of_fieldOr_path hlogout (by decide), head?_of_fieldOr_path hlogin (by decide)⟩

/-- The values of settings as explicit arguments. -/
def arguments (s : Settings) : Keyed Json :=
  [(Field.logoutPath.name, .string s.logoutPath), (Field.loginPath.name, .string s.loginPath),
   (Field.csrfEnabled.name, .bool s.csrfEnabled),
   (Field.invalidateSession.name, .bool s.invalidateSession),
   (Field.clearAuthentication.name, .bool s.clearAuthentication),
   (Field.deleteCookies.name, Json.ofTexts s.deleteCookies),
   (Field.sessionKeyPrefix.name, .string s.sessionKeyPrefix)]

/-- Valid settings are read from their own values. -/
theorem Valid.ofValues_arguments (h : s.Valid) :
    ofValues (fun field => Keyed.get? field.name s.arguments) = .ok s := by
  have hpath : ∀ (place : List String) {text : String}, text.toList.head? = some '/' →
      Checked.path place (.string text) = .ok text :=
    fun place text hslash => if_pos hslash
  have hlogout : fieldOr (fun field => Keyed.get? field.name s.arguments) .logoutPath
      standard.logoutPath Checked.path = .ok s.logoutPath := hpath _ h.logoutPath
  have hlogin : fieldOr (fun field => Keyed.get? field.name s.arguments) .loginPath
      standard.loginPath Checked.path = .ok s.loginPath := hpath _ h.loginPath
  have hcookies : fieldOr (fun field => Keyed.get? field.name s.arguments) .deleteCookies
      standard.deleteCookies Checked.texts = .ok s.deleteCookies :=
    Checked.textItems_map_string _ 0 s.deleteCookies
  unfold ofValues
  simp only [hlogout, hlogin, hcookies]
  rfl

/-- The valid settings are those that can be loaded, from whatever source. -/
theorem valid_iff_exists_load :
    s.Valid ↔ ∃ arguments environment file, load arguments environment file = .ok s := by
  constructor
  · intro h
    refine ⟨s.arguments, [], "", ?_⟩
    have hnothing : ∀ source, sourceValues source [] = .ok fun _ => none := by
      intro source
      refine congrArg Except.ok (funext fun field => ?_)
      cases field <;> rfl
    have hfile : EnvironmentFile.values [] "" = [] := by decide +kernel
    have hvalues : (fun field => Keyed.get? (Field.name field) s.arguments <|> none <|> none) =
        fun field => Keyed.get? (Field.name field) s.arguments :=
      funext fun field => by simp
    unfold load
    rw [hfile]
    show (sourceValues .environment [] >>= fun fromEnvironment => sourceValues .file [] >>=
      fun fromFile => (ofValues fun field => Keyed.get? (Field.name field) s.arguments <|>
        fromEnvironment field <|> fromFile field).mapError LoadError.invalid) = .ok s
    rw [hnothing, hnothing]
    show (ofValues fun field => Keyed.get? (Field.name field) s.arguments <|> none <|>
      none).mapError LoadError.invalid = .ok s
    rw [hvalues, h.ofValues_arguments]
    rfl
  · rintro ⟨arguments, environment, file, h⟩
    obtain ⟨fromEnvironment, -, h⟩ := Checks.bind_eq_ok_iff.mp h
    obtain ⟨fromFile, -, h⟩ := Checks.bind_eq_ok_iff.mp h
    exact valid_of_ofValues (Checks.mapError_eq_ok_iff.mp h)

end Settings

namespace Assembly

open Options.Call

variable {s : Settings} {store : Bool}

/-! ## Settings that can be applied -/

/-- The calls of settings about the path and the switches. -/
def plainCalls (s : Settings) : List Options.Call :=
  (if s.logoutPath = defaultLogoutPath then [] else [.setPath (some s.logoutPath)]) ++
    [.invalidateSession (.ofBool s.invalidateSession),
      .clearAuthentication (.ofBool s.clearAuthentication)]

theorem isAccepted_of_mem_plainCalls (hs : s.Valid) {call : Options.Call}
    (h : call ∈ plainCalls s) : call.isAccepted = true := by
  simp only [plainCalls, List.mem_append, List.mem_cons, List.not_mem_nil, or_false] at h
  rcases h with hpath | rfl | rfl
  · split at hpath
    · cases hpath
    · rw [List.mem_singleton.mp hpath]
      exact Options.isAccepted_setPath_iff.mpr ⟨_, rfl, hs.logoutPath⟩
  · rfl
  · rfl

/-- Valid settings whose cookies have names make accepted calls only. -/
theorem isAccepted_of_mem_optionCalls_settings (hs : s.Valid) (hnamed : "" ∉ s.deleteCookies)
    {call : Options.Call} (h : call ∈ s.optionCalls store) : call.isAccepted = true := by
  rcases List.mem_append.mp h with h | hstore
  · rcases List.mem_append.mp h with hplain | hcookies
    · exact isAccepted_of_mem_plainCalls hs hplain
    · split at hcookies
      · cases hcookies
      · rw [List.mem_singleton.mp hcookies]
        exact Options.isAccepted_deleteCookies_iff.mpr hnamed
  · split at hstore
    · rw [List.mem_singleton.mp hstore]
      rfl
    · cases hstore

/-- Valid settings can be applied unless they have a cookie without a name. -/
theorem failure_ofSettings_of_valid (hs : s.Valid) (store : Bool) :
    (ofSettings s store).failure =
      if "" ∈ s.deleteCookies then
        some (.configuration (.rejected .logout Options.emptyCookieName))
      else none := by
  rw [failure_ofSettings]
  split
  · rename_i hunnamed
    have hcalls : s.optionCalls store =
        plainCalls s ++ .deleteCookies (s.deleteCookies.map some) ::
          if store then [.addSessionStore (some s.sessionRemoval)] else [] := by
      have hcookies : ¬ s.deleteCookies.isEmpty = true :=
        fun hnil => List.ne_nil_of_mem hunnamed (List.isEmpty_iff.mp hnil)
      rw [Settings.optionCalls, if_neg hcookies, List.append_assoc]
      rfl
    rw [hcalls, Options.obstacle_customize_of_refused
      (fun call h => isAccepted_of_mem_plainCalls hs h)
      (Options.apply_deleteCookies_of_empty hunnamed)]
    rfl
  · rename_i hnamed
    rw [Options.obstacle_customize_of_accepted
      fun call h => isAccepted_of_mem_optionCalls_settings hs hnamed h]
    rfl

/-- The assembly that settings leave. -/
theorem assembly_ofSettings (h : (ofSettings s store).failure = none) :
    (ofSettings s store).assembly =
      { initial with
        options := some (s.options store)
        csrfEnabled := s.csrfEnabled
        loginPath := s.loginPath } := by
  rw [(Start.settings h).eq, ofCalls, optionCalls_assemblyCalls h, Settings.ofCalls_optionCalls]
  rfl

theorem check_configuration_settings (s : Settings) (store : Bool) :
    (s.configuration store).check = .ok (s.configuration store) := by
  refine Configuration.check_of_given (fun handler hmem => ?_) nofun rfl
  unfold Settings.configuration Settings.handlers at hmem
  simp only [List.mem_append] at hmem
  rcases hmem with (hcookies | hstore) | hcontext
  · split at hcookies
    · cases hcookies
    · rw [List.mem_singleton.mp hcookies]
      rfl
  · split at hstore
    · rw [List.mem_singleton.mp hstore]
      rfl
    · cases hstore
  · rw [List.mem_singleton.mp hcontext]
    rfl

/-- The methods that trigger a sign-out are written as their set is. -/
theorem ordered_allowedMethods (protection : Bool) :
    Text.ordered ((allowedMethods protection).map Text.upperText) = allowedMethods protection := by
  have hunique : ((allowedMethods protection).map Text.upperText).eraseDups =
      allowedMethods protection := by
    cases protection <;> decide +kernel
  rw [Text.ordered, hunique]
  refine List.mergeSort_of_pairwise ?_
  cases protection <;> decide +kernel

/-- What settings leave of an assembly beside the options. -/
def surroundingsOf (s : Settings) : Options.Surroundings :=
  { Options.Surroundings.standard with
    csrfEnabled := s.csrfEnabled
    loginPath := some s.loginPath }

theorem snapshotParts_settings (s : Settings) (store : Bool) :
    (s.options store).snapshotParts (surroundingsOf s) = .ok (s.configuration store) := by
  have hmatcher : (s.options store).effectiveMatcher (surroundingsOf s) =
      .ok (.atom (.logout s.logoutPath (allowedMethods s.csrfEnabled))) := by
    rw [← ordered_allowedMethods s.csrfEnabled, ← s.effectivePath_options store]
    rfl
  have hhandlers : (s.options store).allHandlers (surroundingsOf s) =
      .ok (s.configuration store).handlers := by
    -- without a repository there is no token to discard, whether protection is on or not
    have htoken : Options.tokenHandlers (surroundingsOf s) = [] := by
      unfold Options.tokenHandlers surroundingsOf
      split
      · rename_i hrepository
        cases hrepository
      · rfl
    unfold Options.allHandlers
    rw [htoken, List.append_nil]
    simp [Options.rememberMeHandlers, Options.eventHandlers, surroundingsOf]
    rfl
  unfold Options.snapshotParts
  rw [hmatcher, hhandlers, s.effectivePath_options store]
  rfl

/-- Settings by themselves have their configuration. -/
theorem buildConfiguration_ofSettings (h : (ofSettings s store).failure = none) :
    (ofSettings s store).assembly.buildConfiguration = .ok (s.configuration store) := by
  have hsnapshot : (s.options store).snapshot (surroundingsOf s) = .ok (s.configuration store) := by
    unfold Options.snapshot
    rw [snapshotParts_settings]
    show (s.configuration store).check.mapError SnapshotFault.incomplete = _
    rw [check_configuration_settings]
    rfl
  rw [assembly_ofSettings h]
  show ((s.options store).snapshot (surroundingsOf s)).mapError ConfigurationError.unbuildable = _
  rw [hsnapshot]
  rfl

/-- Settings by themselves have the stage of their configuration built. -/
theorem build_ofSettings (h : (ofSettings s store).failure = none) :
    (ofSettings s store).assembly.build.result =
      .ok (.stage
        { configuration := s.configuration store
          handler := .many (s.configuration store).handlers
          success := .routed [] (.answer (.negotiating s.loginPath)) }) := by
  have hstage := (ofConfiguration_of_check (check_configuration_settings s store)).2.2
  have hprocessor : (ofSettings s store).assembly.processor = none := by
    rw [assembly_ofSettings h]
    rfl
  unfold build
  rw [buildConfiguration_ofSettings h]
  simp only [hstage]
  unfold finish
  rw [hprocessor]
  rfl

/-! ## Scripts behind settings -/

variable {calls : List Call} {c : Configuration}

theorem optionCalls_append_settings (h : (ofSettings s store).failure = none)
    (calls : List Call) :
    optionCalls (s.assemblyCalls store ++ calls) = s.optionCalls store ++ optionCalls calls := by
  rw [← optionCalls_assemblyCalls h]
  exact List.flatMap_append

/-- The path of settings stays, unless it is the default and a later call sets one. -/
theorem logoutPath_behind_settings (h : (ofSettings s store).failure = none)
    (hc : (initial.applyAll (s.assemblyCalls store ++ calls)).buildConfiguration = .ok c) :
    c.logoutPath =
      some (if s.logoutPath = defaultLogoutPath then
        (setPaths calls).head?.getD defaultLogoutPath
      else s.logoutPath) := by
  have hpath : firstGiven Options.Call.path? (s.optionCalls store) = (s.options store).path :=
    congrArg Options.path (s.ofCalls_optionCalls store)
  rw [Options.logoutPath_of_snapshot (snapshot_of_buildConfiguration hc), Options.effectivePath]
  show some ((firstGiven Options.Call.path? (optionCalls (s.assemblyCalls store ++ calls))).getD
    defaultLogoutPath) = _
  rw [optionCalls_append_settings h, firstGiven_append, hpath, Settings.options]
  split
  · rfl
  · rfl

/-- The chain of settings and of the calls behind them: the handlers of the settings, those that the
calls add, and what is appended to every chain, with the switches of the settings where the calls
set none. -/
def chainBehind (s : Settings) (store : Bool) (calls : List Call) : List Handler :=
  s.handlers store ++ addedHandlers calls ++
  (if (lastGiven Call.csrfEnabled? calls).getD s.csrfEnabled then
    (lastGiven Call.repository? calls).toList.map fun repository => .one (.clearToken repository)
  else []) ++
  ((lastGiven Call.rememberMe? calls).bind RememberMe.handler?).toList ++
  [.one (.clearContext
    ((lastGiven Options.Call.invalidateSession? (optionCalls calls)).getD
      (.ofBool s.invalidateSession))
    ((lastGiven Options.Call.clearAuthentication? (optionCalls calls)).getD
      (.ofBool s.clearAuthentication)))] ++
  (lastGiven Call.publisher? calls).toList.map fun publisher => .one (.publishEvent publisher)

theorem handlers_behind_settings (h : (ofSettings s store).failure = none)
    (hc : (initial.applyAll (s.assemblyCalls store ++ calls)).buildConfiguration = .ok c) :
    c.handlers = chainBehind s store calls := by
  have hown := s.ofCalls_optionCalls store
  have hhandlers := congrArg Options.handlers hown
  have hsession := congrArg Options.invalidateSession hown
  have huser := congrArg Options.clearAuthentication hown
  simp only [Options.ofCalls] at hhandlers hsession huser
  -- of the surroundings, settings only give the protection
  have hprotection : lastGiven Call.csrfEnabled? (s.assemblyCalls store) = some s.csrfEnabled := rfl
  have hrepository : lastGiven Call.repository? (s.assemblyCalls store) = none := rfl
  have hservices : lastGiven Call.rememberMe? (s.assemblyCalls store) = none := rfl
  have hpublisher : lastGiven Call.publisher? (s.assemblyCalls store) = none := rfl
  obtain ⟨-, -, hchain, -⟩ := Options.eq_of_snapshot (snapshot_of_buildConfiguration hc)
  rw [Options.eq_of_allHandlers hchain, Options.tokenHandlers_eq, Options.eventHandlers_eq]
  simp only [Options.ofCalls, ofCalls, surroundings, optionCalls_append_settings h,
    lastGiven_append, List.filterMap_append, Option.getD_or, hhandlers, hsession, huser,
    hprotection, hrepository, hservices, hpublisher, Option.or_none]
  rfl

/-- Behind settings there is a configuration unless a later call gave services that cannot be
awaited. -/
theorem exists_buildConfiguration_behind_settings (h : (ofSettings s store).failure = none)
    (script : List Operation) :
    (∃ c, ((ofSettings s store).assembly.perform script).buildConfiguration = .ok c) ↔
      ∀ services, lastGiven Call.rememberMe? (madeCalls script) = some services →
        ¬ services.Unawaitable := by
  have hleft := LeftBy.script (.settings h) script
  have hclosed := hleft.eq.trans (applyAll_initial _)
  have hservices : ((ofSettings s store).assembly.perform script).rememberMe =
      lastGiven Call.rememberMe? (madeCalls script) := by
    rw [hclosed]
    show lastGiven Call.rememberMe? (s.assemblyCalls store ++ madeCalls script) = _
    rw [lastGiven_append]
    exact Option.or_none
  have henabled : ((ofSettings s store).assembly.perform script).options ≠ none := by
    rw [hclosed, ne_eq, options_ofCalls_eq_none_iff]
    intro hnever
    have hlogout := hnever (.logout ((s.optionCalls store).map Except.ok))
      (by simp [Settings.assemblyCalls])
    cases hlogout
  have hfails := hleft.whole.exists_error_iff
  rw [hservices] at hfails
  cases hbuilt : ((ofSettings s store).assembly.perform script).buildConfiguration with
  | ok c =>
      refine ⟨fun _ services hgiven hunawaitable => ?_, fun _ => ⟨c, rfl⟩⟩
      obtain ⟨error, herror⟩ := hfails.mpr (Or.inr ⟨services, hgiven, hunawaitable⟩)
      cases hbuilt.symm.trans herror
  | error error =>
      constructor
      · rintro ⟨c, hc⟩
        cases hc
      · intro hawaitable
        obtain ⟨services, hgiven, hunawaitable⟩ := (hfails.mp ⟨error, hbuilt⟩).resolve_left henabled
        exact absurd hunawaitable (hawaitable services hgiven)

/-- What settings amount to.  Valid ones can be applied unless they have a cookie without a name,
which is reported as such.  By themselves they have the configuration and the stage that they
describe.  Behind them a script has a configuration unless it gives services that cannot be awaited.
The handlers of the settings stand in front of it, those that the script adds follow, and behind
these stands what is appended to every chain, with the switches of the settings as far as the script
sets none.  The path of the settings stays, whatever the script sets; only if it is the default, the
first path that the script sets takes its place. -/
theorem script_behind_settings (hs : s.Valid) (store : Bool) :
    (ofSettings s store).failure =
        (if "" ∈ s.deleteCookies then
          some (.configuration (.rejected .logout
            { argument := "cookie_names", fault := .emptyCookieName }))
        else none) ∧
      ("" ∉ s.deleteCookies →
        (ofSettings s store).assembly.buildConfiguration = .ok (s.configuration store) ∧
        (ofSettings s store).assembly.build.result =
          .ok (.stage
            { configuration := s.configuration store
              handler := .many (s.configuration store).handlers
              success := .routed [] (.answer (.negotiating s.loginPath)) }) ∧
        ∀ script,
          ((∃ c, ((ofSettings s store).assembly.perform script).buildConfiguration = .ok c) ↔
            ∀ services, lastGiven Call.rememberMe? (madeCalls script) = some services →
              ¬ services.Unawaitable) ∧
          ∀ c, ((ofSettings s store).assembly.perform script).buildConfiguration = .ok c →
            c.handlers = chainBehind s store (madeCalls script) ∧
            c.logoutPath =
              some (if s.logoutPath = defaultLogoutPath then
                (setPaths (madeCalls script)).head?.getD defaultLogoutPath
              else s.logoutPath)) := by
  refine ⟨failure_ofSettings_of_valid hs store, fun hnamed => ?_⟩
  have happlied : (ofSettings s store).failure = none := by
    rw [failure_ofSettings_of_valid hs store, if_neg hnamed]
  refine ⟨buildConfiguration_ofSettings happlied, build_ofSettings happlied, fun script =>
    ⟨exists_buildConfiguration_behind_settings happlied script, fun c hc => ?_⟩⟩
  rw [(LeftBy.script (.settings happlied) script).eq] at hc
  exact ⟨handlers_behind_settings happlied hc, logoutPath_behind_settings happlied hc⟩

/-- Settings that keep the session, with the default path, two cookies and a prefix of their own. -/
def tidySettings : Settings :=
  { Settings.standard with
    invalidateSession := false
    deleteCookies := ["SESSION", "theme"]
    sessionKeyPrefix := "app" }

/-- A script that adds a handler and sets two paths, behind one that is refused. -/
def laterScript : List Operation :=
  [.build, .make (.logout [.ok (.setPath (some "bye")), .ok (.setPath (some "/never"))]),
    .make (.logout [.ok (.setPath (some "/bye")), .ok (.addHandler (.one .forgetUser)),
      .ok (.clearAuthentication .off)]),
    .configuration, .make (.csrf false none), .make (.logout [.ok (.setPath (some "/leave"))])]

theorem script_behind_settings_sample :
    (∃ c, ((ofSettings tidySettings true).assembly.perform laterScript).buildConfiguration =
        .ok c ∧ c.logoutPath = some "/bye" ∧
      c.handlers =
        [.one (.expireCookies ["SESSION", "theme"] (some "/") none),
          .one (.removeSession { SessionRemoval.standard with keyPrefix := some "app" }),
          .one .forgetUser, .one (.clearContext .off .off)]) ∧
    (ofSettings { tidySettings with deleteCookies := ["SESSION", ""] } true).failure =
      some (.configuration (.rejected .logout
        { argument := "cookie_names", fault := .emptyCookieName })) := by
  have hvalid : tidySettings.Valid := ⟨by decide, by decide⟩
  obtain ⟨-, hnamed⟩ := script_behind_settings hvalid true
  obtain ⟨-, -, hscript⟩ := hnamed (by decide)
  obtain ⟨hexists, hall⟩ := hscript laterScript
  have hservices : lastGiven Call.rememberMe? (madeCalls laterScript) = none := rfl
  obtain ⟨c, hc⟩ := hexists.mpr fun services hgiven => nomatch hservices.symm.trans hgiven
  obtain ⟨hhandlers, hpath⟩ := hall c hc
  refine ⟨⟨c, hc, ?_, ?_⟩, ?_⟩
  · rw [hpath]
    rfl
  · rw [hhandlers]
    rfl
  · exact (script_behind_settings ⟨by decide, by decide⟩ true).1

end Assembly

end SignOut
