import SignOut.Proofs.Script

/-!
# The path that is set once

The sign-out path is the first one that is set.  A path that is refused is not set, and a path that
is set later stays without effect: if it differs from the first one, a warning says so, and a
repetition passes in silence.  That nothing was set yet and that the default was set are two
different things, so a path that equals the default stays like any other.

The warnings are a function of the paths that were set.  One more path adds at most one warning to
them; from this step follow the warnings of a customization, of a call and of a whole script.
-/

namespace SignOut

namespace Options

/-- The paths that calls set. -/
def setPaths (calls : List Call) : List String :=
  calls.filterMap Call.path?

/-- The remarks on paths that were set one after another: the first is in effect, and every later
one that differs from it is remarked upon. -/
def ignoredPaths : List String → List LogRecord
  | [] => []
  | inEffect :: later =>
      (later.filter (· ≠ inEffect)).map fun path => ignoredPath path inEffect

theorem requirePath_eq_ok_iff {path : Option String} {text : String} :
    requirePath path = .ok text ↔ path = some text ∧ text.toList.head? = some '/' := by
  constructor
  · intro h
    obtain ⟨given, hgiven, h⟩ := Checks.bind_eq_ok_iff.mp h
    split at h
    · rename_i hslash
      cases h
      exact ⟨InvalidArgument.eq_some_of_require hgiven, hslash⟩
    · cases h
  · rintro ⟨rfl, hslash⟩
    exact Checks.bind_eq_ok_iff.mpr ⟨text, rfl, if_pos hslash⟩

/-- A path is set if it is given and starts with a slash. -/
theorem isAccepted_setPath_iff {path : Option String} :
    (Call.setPath path).isAccepted = true ↔
      ∃ text, path = some text ∧ text.toList.head? = some '/' := by
  have hchecked : (Call.setPath path).isAccepted = (requirePath path).isOk := by
    show ((do
      let text ← requirePath path
      return { initial with path := some (initial.path.getD text) }) :
        Except InvalidArgument Options).isOk = (requirePath path).isOk
    cases requirePath path with
    | error e => rfl
    | ok text => rfl
  rw [hchecked]
  constructor
  · intro h
    cases hpath : requirePath path with
    | error e =>
        rw [hpath] at h
        cases h
    | ok text => exact ⟨text, requirePath_eq_ok_iff.mp hpath⟩
  · rintro ⟨text, h⟩
    rw [requirePath_eq_ok_iff.mpr h]
    rfl

/-! ## One more path -/

theorem level_of_mem_ignoredPaths {paths : List String} {entry : LogRecord}
    (h : entry ∈ ignoredPaths paths) : entry.level = .warning := by
  cases paths with
  | nil => cases h
  | cons inEffect later =>
      obtain ⟨path, -, rfl⟩ := List.mem_map.mp h
      rfl

/-- One more path adds its remark: none if it is the first or repeats it. -/
theorem ignoredPaths_concat (paths : List String) (path : String) :
    ignoredPaths (paths ++ [path]) =
      ignoredPaths paths ++
        match paths.head? with
        | none => []
        | some inEffect => if path = inEffect then [] else [ignoredPath path inEffect] := by
  cases paths with
  | nil => rfl
  | cons inEffect later =>
      by_cases h : path = inEffect
      · simp [ignoredPaths, h]
      · simp [ignoredPaths, h]

/-- The remarks on a call are what its path adds: a refused call has none. -/
theorem ignoredPaths_append_remarks (calls : List Call) (call : Call) :
    ignoredPaths (setPaths calls) ++ (ofCalls calls).remarks call =
      ignoredPaths (setPaths (calls ++ if call.isAccepted then [call] else [])) := by
  cases call with
  | setPath path =>
      cases hpath : requirePath path with
      | error e =>
          have hrefused : (Call.setPath path).isAccepted = false := by
            rw [Bool.eq_false_iff]
            intro h
            obtain ⟨text, htext⟩ := isAccepted_setPath_iff.mp h
            rw [requirePath_eq_ok_iff.mpr htext] at hpath
            cases hpath
          simp [remarks, hpath, hrefused]
      | ok text =>
          obtain ⟨rfl, hslash⟩ := requirePath_eq_ok_iff.mp hpath
          have haccepted := isAccepted_setPath_iff.mpr ⟨text, rfl, hslash⟩
          have hone : setPaths (calls ++ [.setPath (some text)]) = setPaths calls ++ [text] := by
            simp [setPaths]
          have hfirst : (ofCalls calls).path = (setPaths calls).head? := rfl
          rw [haccepted, if_pos rfl, hone, ignoredPaths_concat]
          simp only [remarks, hpath, hfirst]
          cases (setPaths calls).head? with
          | none => rfl
          | some inEffect => rfl
  | _ =>
      -- no other call sets a path, whether it is accepted or not
      split
      · simp [remarks, setPaths, List.filterMap_cons]
      · simp [remarks]

/-- The remarks on a customization are what its paths add. -/
theorem ignoredPaths_append_customize (calls : List Call) (steps : List Step) :
    ignoredPaths (setPaths calls) ++ ((ofCalls calls).customize steps).records =
      ignoredPaths (setPaths (calls ++ accepted steps)) := by
  induction steps generalizing calls with
  | nil => simp [customize, accepted]
  | cons step rest ih =>
      cases step with
      | error obstacle => simp [customize, accepted]
      | ok call =>
          have hremarks := ignoredPaths_append_remarks calls call
          unfold customize accepted
          cases h : (ofCalls calls).apply call with
          | error refusal =>
              have hrefused : call.isAccepted = false := by
                rw [← isOk_apply (ofCalls calls), h]
                rfl
              rw [hrefused] at hremarks ⊢
              exact hremarks
          | ok next =>
              have haccepted : call.isAccepted = true := by
                rw [← isOk_apply (ofCalls calls), h]
                rfl
              rw [haccepted, if_pos rfl] at hremarks
              rw [haccepted, if_pos rfl, List.append_cons, ← ih (calls ++ [call]), ← hremarks,
                List.append_assoc, eq_extend_of_apply h, ← ofCalls_concat]

/-- A snapshot has the path in effect. -/
theorem logoutPath_of_snapshot {c : Options} {s : Surroundings} {configuration : Configuration}
    (h : c.snapshot s = .ok configuration) :
    configuration.logoutPath = some c.effectivePath := by
  obtain ⟨parts, hparts, hcheck⟩ := Checks.bind_eq_ok_iff.mp h
  rw [Configuration.eq_of_check (Checks.mapError_eq_ok_iff.mp hcheck)]
  exact (eq_of_snapshotParts (Checks.mapError_eq_ok_iff.mp hparts)).2.2.2.2

/-- The methods of a snapshot depend on the protection alone. -/
theorem methods_of_snapshot {c : Options} {s : Surroundings} {configuration : Configuration}
    (h : c.snapshot s = .ok configuration) :
    configuration.methods = allowedMethods s.csrfEnabled := by
  obtain ⟨parts, hparts, hcheck⟩ := Checks.bind_eq_ok_iff.mp h
  rw [Configuration.eq_of_check (Checks.mapError_eq_ok_iff.mp hcheck)]
  obtain ⟨matcher, -, hparts⟩ := Checks.bind_eq_ok_iff.mp (Checks.mapError_eq_ok_iff.mp hparts)
  obtain ⟨handlers, -, hparts⟩ := Checks.bind_eq_ok_iff.mp hparts
  obtain ⟨fallback, -, hparts⟩ := Checks.bind_eq_ok_iff.mp hparts
  cases hparts
  rfl

end Options

namespace Assembly

/-! ## The log of a script -/

/-- The paths that a history sets, across all its customizations. -/
def setPaths (history : List Call) : List String :=
  Options.setPaths (optionCalls history)

/-- The warnings of a log. -/
def warnings (entries : List LogRecord) : List LogRecord :=
  entries.filter (·.level = .warning)

theorem records_setGiven {α : Type} (a : Assembly) (value : Option α) (argument : String)
    (update : α → Assembly) : (a.setGiven value argument update).records = [] := by
  cases value with
  | none => rfl
  | some value => rfl

/-- Only customizations write to the log. -/
theorem records_apply_of_not_isLogout (a : Assembly) {call : Call} (h : call.isLogout = false) :
    (a.apply call).records = [] := by
  cases call with
  | logout customization => cases h
  | csrf enabled repository => rfl
  | rememberMe services => exact records_setGiven a services _ _
  | loginPath path => exact records_setGiven a path _ _
  | eventPublisher publisher => exact records_setGiven a publisher _ _
  | postProcessor candidate =>
      cases candidate with
      | hook processor => rfl
      | foreign value => cases value <;> rfl

/-- What a call writes to the log is what its paths add. -/
theorem ignoredPaths_append_apply (calls : List Call) (call : Call) :
    Options.ignoredPaths (setPaths calls) ++ ((ofCalls calls).apply call).records =
      Options.ignoredPaths (setPaths (calls ++ [call])) := by
  have hcalls : optionCalls (calls ++ [call]) = optionCalls calls ++ call.optionCalls := by
    simp [optionCalls]
  unfold setPaths
  rw [hcalls]
  cases call with
  | logout customization =>
      show _ ++ (Options.customize _ customization).records = _
      rw [options_ofCalls_getD]
      exact Options.ignoredPaths_append_customize _ customization
  | _ =>
      rw [records_apply_of_not_isLogout _ rfl]
      simp

/-- The end of a build only writes that the stage was built, and that is no warning. -/
theorem warnings_ending (s : Stage) (calls : List SignOut.Call)
    (result : Except BuildFailure Filter) :
    warnings (Build.ending s calls result).records = [] := by
  cases result with
  | ok filter => rfl
  | error failure => rfl

theorem warnings_build (a : Assembly) : warnings a.build.records = [] := by
  unfold build
  split
  · rfl
  split
  · rfl
  · unfold finish
    split
    · exact warnings_ending ..
    · exact warnings_ending ..

theorem warnings_ignoredPaths (paths : List String) :
    warnings (Options.ignoredPaths paths) = Options.ignoredPaths paths :=
  List.filter_eq_self.mpr fun _ h => decide_eq_true (Options.level_of_mem_ignoredPaths h)

theorem warnings_append (entries more : List LogRecord) :
    warnings (entries ++ more) = warnings entries ++ warnings more :=
  List.filter_append ..

/-- The warnings of a script are what its paths add to those of the calls before it. -/
theorem ignoredPaths_append_log (before : List Call) (script : List Operation) :
    Options.ignoredPaths (setPaths before) ++ warnings ((ofCalls before).log script) =
      Options.ignoredPaths (setPaths (before ++ madeCalls script)) := by
  -- the calls made so far grow along the script, and with them the path in effect is known
  induction script generalizing before with
  | nil => simp [log, madeCalls, warnings]
  | cons operation rest ih =>
      show _ ++ warnings (operation.records _ ++ (operation.after _).log rest) = _
      rw [warnings_append]
      cases operation with
      | make call =>
          have hstep := congrArg warnings (ignoredPaths_append_apply before call)
          rw [warnings_append, warnings_ignoredPaths, warnings_ignoredPaths] at hstep
          show _ ++ (warnings ((ofCalls before).apply call).records ++
            warnings (((ofCalls before).apply call).assembly.log rest)) = _
          rw [← List.append_assoc, hstep, apply_ofCalls, ih (before ++ [call]), List.append_assoc]
          rfl
      | configuration => exact ih before
      | build =>
          show _ ++ (warnings (ofCalls before).build.records ++ _) = _
          rw [warnings_build]
          exact ih before

/-- Settings set one path at most, so none of theirs is remarked upon. -/
theorem Start.ignoredPaths_eq_nil {start : Assembly} {before : List Call} (h : start.Start before) :
    Options.ignoredPaths (setPaths before) = [] := by
  cases h with
  | fresh => rfl
  | @settings settings store h =>
      -- a path that equals the default is not passed on
      have hpaths : setPaths (settings.assemblyCalls store) =
          if settings.logoutPath = defaultLogoutPath then [] else [settings.logoutPath] := by
        unfold setPaths Options.setPaths
        rw [optionCalls_assemblyCalls h]
        unfold Settings.optionCalls
        split <;> split <;> split <;> simp [List.filterMap_cons]
      rw [hpaths]
      split
      · rfl
      · rfl

/-- The sign-out path of a script, and what is said about the others.  A path is set if it is given
and starts with a slash.  Of the paths that were set, by the settings from which the script starts
or in whatever customizations, the first is that of every configuration it takes, and the default
is only used where none was set.  Each later path that differs from the first is remarked upon by
one warning, in order, and there are no other warnings. -/
theorem logoutPath_of_script {start : Assembly} {before : List Call} (hstart : start.Start before)
    (script : List Operation) :
    (∀ path, (Options.Call.setPath path).isAccepted = true ↔
      ∃ text, path = some text ∧ text.toList.head? = some '/') ∧
    (∀ c, (start.perform script).buildConfiguration = .ok c →
      c.logoutPath =
        some ((setPaths (before ++ madeCalls script)).head?.getD defaultLogoutPath)) ∧
    warnings (start.log script) =
      match setPaths (before ++ madeCalls script) with
      | [] => []
      | inEffect :: later =>
          (later.filter (· ≠ inEffect)).map fun path => Options.ignoredPath path inEffect := by
  refine ⟨fun path => Options.isAccepted_setPath_iff, ?_, ?_⟩
  · intro c hc
    rw [(LeftBy.script hstart script).eq] at hc
    exact Options.logoutPath_of_snapshot (snapshot_of_buildConfiguration hc)
  · have hlog := ignoredPaths_append_log before script
    rw [hstart.ignoredPaths_eq_nil, List.nil_append, ← hstart.eq] at hlog
    exact hlog

/-- A script that sets the default path explicitly and repeats it, between paths that are refused,
a filter that is built, and another path that comes too late. -/
def sampleScript : List Operation :=
  [.make (.logout [.ok (.setPath (some "bye")), .ok (.setPath (some "/never"))]),
    .make (.logout [.ok (.setPath (some defaultLogoutPath)), .ok (.setPath none)]),
    .build, .make (.csrf false none),
    .make (.logout [.ok (.setPath (some defaultLogoutPath)), .ok (.setPath (some "/bye"))]),
    .make (.logout [])]

/-- Settings with a path of their own, which is in effect from the start. -/
def sampleSettings : Settings :=
  { Settings.standard with logoutPath := "/leave" }

theorem logoutPath_sample :
    (∃ c, (initial.perform sampleScript).buildConfiguration = .ok c ∧
      c.logoutPath = some "/logout" ∧
      warnings (initial.log sampleScript) = [Options.ignoredPath "/bye" "/logout"]) ∧
    ∃ c, ((ofSettings sampleSettings false).assembly.perform sampleScript).buildConfiguration =
        .ok c ∧ c.logoutPath = some "/leave" := by
  refine ⟨?_, ?_⟩
  · have hbuilt : ∃ c, (initial.perform sampleScript).buildConfiguration = .ok c := ⟨_, rfl⟩
    obtain ⟨c, hc⟩ := hbuilt
    obtain ⟨-, hpath, hwarnings⟩ := logoutPath_of_script .fresh sampleScript
    refine ⟨c, hc, ?_, ?_⟩
    · rw [hpath c hc]
      rfl
    · rw [hwarnings]
      rfl
  · have hbuilt : ∃ c, ((ofSettings sampleSettings false).assembly.perform
        sampleScript).buildConfiguration = .ok c := ⟨_, rfl⟩
    obtain ⟨c, hc⟩ := hbuilt
    have hstarted : (ofSettings sampleSettings false).failure = none := rfl
    obtain ⟨-, hpath, -⟩ := logoutPath_of_script (.settings hstarted) sampleScript
    refine ⟨c, hc, ?_⟩
    rw [hpath c hc]
    rfl

end Assembly

end SignOut
