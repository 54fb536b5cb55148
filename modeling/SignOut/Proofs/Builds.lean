import SignOut.Proofs.StickyPath
import SignOut.Proofs.Wrapping

/-!
# The builds of a script

A script builds as often as it likes, before, between and after its calls.  A build that has a
configuration makes its stage and lets the last hook that was given see it, once.  What the hook
returns is the result, provided that it is a filter; then the build is noted in the log, once.
Without a configuration the hook sees nothing, and a build that fails notes nothing.  All of this is
decided by the calls that were made before, so no build makes a difference to another one.
-/

namespace SignOut

namespace Assembly

variable {a start : Assembly} {before history : List Call} {s : Stage}

/-! ## One build -/

/-- The stage that a history of calls describes. -/
structure Describes (history : List Call) (s : Stage) : Prop where
  configured : (ofCalls history).buildConfiguration = .ok s.configuration
  staged : Stage.ofConfiguration s.configuration = .ok s

theorem exists_describes {c : Configuration} (h : (ofCalls history).buildConfiguration = .ok c) :
    ∃ s, Describes history s ∧ (ofCalls history).build = (ofCalls history).finish s := by
  obtain ⟨s, hs, hbuild⟩ := build_of_buildConfiguration h
  obtain rfl : s.configuration = c := congrArg Stage.configuration (Stage.eq_of_ofConfiguration hs)
  exact ⟨s, ⟨h, hs⟩, hbuild⟩

/-- What a build does after a history of calls, case by case: there is no configuration, there is no
hook, the hook returned a filter, it returned something else, or it was stopped.  Where there is a
hook, its one run on the stage is all that is left of the build: the calls are those of that run,
and its outcome decides on the result. -/
inductive Concluded (history : List Call) : Build → Prop
  | unconfigured {error : ConfigurationError}
      (h : (ofCalls history).buildConfiguration = .error error) :
      Concluded history { result := .error (.configuration error), calls := [], records := [] }
  | bare {s : Stage} (hs : Describes history s)
      (hnone : lastGiven Call.processor? history = none) :
      Concluded history
        { result := .ok (.stage s), calls := [], records := [built s.configuration] }
  | returned {s : Stage} {processor : PostProcessor} {calls : List SignOut.Call}
      {replacement : Replacement} {filter : Filter} (hs : Describes history s)
      (hlast : lastGiven Call.processor? history = some processor)
      (hact : processor.act s = { calls, outcome := .ok replacement })
      (hfilter : replacement.asFilter s = .ok filter) :
      Concluded history { result := .ok filter, calls, records := [built s.configuration] }
  | unfit {s : Stage} {processor : PostProcessor} {calls : List SignOut.Call}
      {replacement : Replacement} {typeName : String} (hs : Describes history s)
      (hlast : lastGiven Call.processor? history = some processor)
      (hact : processor.act s = { calls, outcome := .ok replacement })
      (hunfit : replacement.asFilter s = .error typeName) :
      Concluded history
        { result := .error (.configuration (.notAFilter processor.typeName typeName))
          calls, records := [] }
  | stopped {s : Stage} {processor : PostProcessor} {calls : List SignOut.Call}
      {obstacle : Obstacle} (hs : Describes history s)
      (hlast : lastGiven Call.processor? history = some processor)
      (hact : processor.act s = { calls, outcome := .error obstacle }) :
      Concluded history { result := .error (.ofObstacle obstacle), calls, records := [] }

theorem finish_of_none (h : a.processor = none) :
    a.finish s = { result := .ok (.stage s), calls := [], records := [built s.configuration] } := by
  unfold finish
  rw [h]
  rfl

/-- A hook runs once, and its run ends the build. -/
theorem finish_of_some {processor : PostProcessor} {run : HookRun}
    (h : a.processor = some processor) (hact : processor.act s = run) :
    a.finish s = .ending s run.calls (postProcess s processor run) := by
  unfold finish
  rw [h, ← hact]

/-- Every build is concluded by the calls before it. -/
theorem concluded_build (history : List Call) : Concluded history (ofCalls history).build := by
  cases hconfiguration : (ofCalls history).buildConfiguration with
  | error error =>
      have hbuild : (ofCalls history).build =
          { result := .error (.configuration error), calls := [], records := [] } := by
        unfold build
        rw [hconfiguration]
      rw [hbuild]
      exact .unconfigured hconfiguration
  | ok c =>
      obtain ⟨s, hs, hbuild⟩ := exists_describes hconfiguration
      rw [hbuild]
      cases hlast : lastGiven Call.processor? history with
      | none =>
          rw [finish_of_none hlast]
          exact .bare hs hlast
      | some processor =>
          rcases hact : processor.act s with ⟨calls, outcome⟩
          rw [finish_of_some hlast hact]
          cases outcome with
          | error obstacle => exact .stopped hs hlast hact
          | ok replacement =>
              cases hfilter : replacement.asFilter s with
              | error typeName =>
                  simp only [postProcess, hfilter]
                  exact .unfit hs hlast hact hfilter
              | ok filter =>
                  simp only [postProcess, hfilter]
                  exact .returned hs hlast hact hfilter

/-! ## All builds of a script -/

/-- The build that an operation is. -/
def Operation.build? (a : Assembly) : Operation → Option Build
  | .build => some a.build
  | _ => none

/-- The builds of a script. -/
def builds (a : Assembly) : List Operation → List Build
  | [] => []
  | operation :: rest => (operation.build? a).toList ++ (operation.after a).builds rest

/-- The builds of two scripts, one made after the other. -/
theorem builds_append (a : Assembly) (earlier later : List Operation) :
    a.builds (earlier ++ later) = a.builds earlier ++ (a.perform earlier).builds later := by
  induction earlier generalizing a with
  | nil => rfl
  | cons operation rest ih =>
      show _ ++ (operation.after a).builds (rest ++ later) = _
      rw [ih, ← List.append_assoc]
      rfl

/-! ## The notes of a script -/

/-- The notes in a log: what is neither a warning nor a hint for debugging. -/
def notes (entries : List LogRecord) : List LogRecord :=
  entries.filter (·.level = .info)

theorem notes_append (entries more : List LogRecord) :
    notes (entries ++ more) = notes entries ++ notes more :=
  List.filter_append ..

/-- A call writes warnings only. -/
theorem notes_apply (calls : List Call) (call : Call) :
    notes ((ofCalls calls).apply call).records = [] := by
  refine List.filter_eq_nil_iff.mpr fun record hrecord => ?_
  have hmem : record ∈ Options.ignoredPaths (setPaths (calls ++ [call])) := by
    rw [← ignoredPaths_append_apply]
    exact List.mem_append_right _ hrecord
  have hwarning := Options.level_of_mem_ignoredPaths hmem
  simp [hwarning]

/-- All that a build writes are notes. -/
theorem Concluded.notes_records {b : Build} (h : Concluded history b) :
    notes b.records = b.records := by
  cases h with
  | unconfigured h => rfl
  | bare hs hnone => rfl
  | returned hs hlast hact hfilter => rfl
  | unfit hs hlast hact hunfit => rfl
  | stopped hs hlast hact => rfl

/-- The notes of a script are those of its builds. -/
theorem notes_log (before : List Call) (script : List Operation) :
    notes ((ofCalls before).log script) =
      ((ofCalls before).builds script).flatMap Build.records := by
  -- the calls made so far grow along the script
  induction script generalizing before with
  | nil => rfl
  | cons operation rest ih =>
      show notes (operation.records _ ++ (operation.after _).log rest) =
        ((operation.build? _).toList ++ (operation.after _).builds rest).flatMap Build.records
      rw [notes_append, List.flatMap_append]
      cases operation with
      | make call =>
          have hafter : Operation.after (ofCalls before) (.make call) =
              ofCalls (before ++ [call]) := apply_ofCalls before call
          have hcall : notes (Operation.records (ofCalls before) (.make call)) = [] :=
            notes_apply before call
          rw [hcall, hafter, ih]
          rfl
      | configuration => exact ih before
      | build =>
          have hbuild : notes (Operation.records (ofCalls before) .build) =
              (ofCalls before).build.records := (concluded_build before).notes_records
          rw [hbuild]
          show _ ++ notes ((ofCalls before).log rest) = _
          rw [ih]
          simp [Operation.build?, Operation.after]

/-- The builds of a script, wherever they stand.  Each is concluded by the calls that were made
before it, those of the settings included: the hook that was given last sees the stage once if there
is a configuration, and not at all otherwise; what it returns is the result if it is a filter, and
only then the build is noted, once.  The builds before and after it are the same without it.  The
log has no other notes than those of the builds. -/
theorem builds_of_script (hstart : start.Start before) :
    (∀ earlier later,
      Concluded (before ++ madeCalls earlier) (start.perform earlier).build ∧
      start.builds (earlier ++ .build :: later) =
        start.builds earlier ++ (start.perform earlier).build ::
          (start.perform earlier).builds later ∧
      start.builds (earlier ++ later) =
        start.builds earlier ++ (start.perform earlier).builds later) ∧
    ∀ script, notes (start.log script) = (start.builds script).flatMap Build.records := by
  constructor
  · intro earlier later
    refine ⟨?_, ?_, builds_append start earlier later⟩
    · rw [(LeftBy.script hstart earlier).eq, applyAll_initial]
      exact concluded_build _
    · rw [builds_append]
      rfl
  · intro script
    rw [hstart.eq]
    exact notes_log before script

/-- A filter of an application that is closed: it lets every request pass. -/
def closedFilter : Substitute :=
  { typeName := "ClosedFilter", process := fun _ => pure none }

/-- A script that builds before the sign-out is enabled, without a hook, with a hook that fails, and
after a hook was given that puts a filter of its own in the place of the stage and an object was
refused as a hook. -/
def sampleBuilds : List Operation :=
  [.build, .make (.logout []), .build, .make (.postProcessor (.hook .failing)), .build,
   .make (.postProcessor (.hook (.recording (.ok (.substitute closedFilter))))),
   .make (.postProcessor (.foreign .object))]

/-- What a hook that returns no filter adds to the script. -/
def sampleRebuild : List Operation :=
  [.make (.postProcessor (.hook .nothing)), .build]

theorem builds_of_script_sample :
    (∃ s, Describes (madeCalls sampleBuilds) s ∧
      (initial.perform sampleBuilds).build =
        { result := .ok (.substitute closedFilter), calls := [.postProcessed "LogoutFilter"]
          records := [built s.configuration] }) ∧
    initial.builds (sampleBuilds ++ .build :: sampleRebuild) =
      initial.builds sampleBuilds ++ (initial.perform sampleBuilds).build ::
        (initial.perform sampleBuilds).builds sampleRebuild ∧
    initial.builds (sampleBuilds ++ sampleRebuild) =
      initial.builds sampleBuilds ++ (initial.perform sampleBuilds).builds sampleRebuild ∧
    (notes (initial.log (sampleBuilds ++ .build :: sampleRebuild))).length = 2 := by
  obtain ⟨hbuilds, hnotes⟩ := builds_of_script .fresh
  obtain ⟨hconcluded, hmade, hleft⟩ := hbuilds sampleBuilds sampleRebuild
  refine ⟨?_, hmade, hleft, ?_⟩
  · generalize (initial.perform sampleBuilds).build = b at hconcluded ⊢
    cases hconcluded with
    | unconfigured h => cases h
    | bare hs hnone => cases hnone
    | returned hs hlast hact hfilter =>
        cases hlast
        cases hact
        cases hfilter
        exact ⟨_, hs, rfl⟩
    | unfit hs hlast hact hunfit =>
        cases hlast
        cases hact
        cases hunfit
    | stopped hs hlast hact =>
        cases hlast
        cases hact
  · rw [hnotes]
    rfl

end Assembly

end SignOut
