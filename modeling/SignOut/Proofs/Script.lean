import SignOut.Assembly.OfSettings
import SignOut.Proofs.History

/-!
# Scripts

An application sets up its sign-out by a script.  It makes calls on an assembly, of which some may
be refused, and it takes configurations and filters from it wherever it likes.  Taking one changes
nothing, so a script leaves the assembly that its calls leave by themselves, and everything that
is known of a history of calls is known of a script.  A script that starts from settings is the
history of the calls that the settings stand for, provided that none of these was refused.
-/

namespace SignOut

namespace Options

/-- A customization that ends without an obstacle made all its calls with effect. -/
theorem accepted_of_obstacle_eq_none {c : Options} {calls : List Call}
    (h : (c.customize (calls.map Except.ok)).obstacle = none) :
    accepted (calls.map Except.ok) = calls := by
  induction calls generalizing c with
  | nil => rfl
  | cons call rest ih =>
      rw [List.map_cons] at h ⊢
      unfold customize at h
      unfold accepted
      cases happly : c.apply call with
      | error refusal =>
          rw [happly] at h
          cases h
      | ok next =>
          rw [happly] at h
          have haccepted : call.isAccepted = true := by
            rw [← isOk_apply c, happly]
            rfl
          rw [if_pos haccepted, ih h]

end Options

namespace Assembly

/-! ## Operations -/

/-- What a script does with an assembly: it makes a call, or it takes a configuration or a filter
from what was collected so far. -/
inductive Operation where
  | make (call : Call)
  | configuration
  | build

namespace Operation

/-- The call that an operation makes. -/
@[simp] def call? : Operation → Option Call
  | .make call => some call
  | _ => none

/-- The assembly after an operation; whether a call was refused makes no difference. -/
def after (a : Assembly) : Operation → Assembly
  | .make call => (a.apply call).assembly
  | .configuration => a
  | .build => a

/-- What an operation writes to the log. -/
def records (a : Assembly) : Operation → List LogRecord
  | .make call => (a.apply call).records
  | .configuration => []
  | .build => a.build.records

end Operation

/-- The assembly after a script. -/
def perform (a : Assembly) : List Operation → Assembly
  | [] => a
  | operation :: rest => (operation.after a).perform rest

/-- What a script writes to the log. -/
def log (a : Assembly) : List Operation → List LogRecord
  | [] => []
  | operation :: rest => operation.records a ++ (operation.after a).log rest

/-- The calls of a script. -/
def madeCalls (script : List Operation) : List Call :=
  script.filterMap Operation.call?

/-- A script leaves what its calls leave. -/
theorem perform_eq_applyAll (a : Assembly) (script : List Operation) :
    a.perform script = a.applyAll (madeCalls script) := by
  induction script generalizing a with
  | nil => rfl
  | cons operation rest ih =>
      cases operation with
      | make call => exact ih _
      | configuration => exact ih a
      | build => exact ih a

/-! ## Settings -/

/-- Calls none of which failed leave what they leave without stopping at a failure. -/
theorem assembly_applyUntilError {a : Assembly} {calls : List Call}
    (h : (a.applyUntilError calls).failure = none) :
    (a.applyUntilError calls).assembly = a.applyAll calls := by
  induction calls generalizing a with
  | nil => rfl
  | cons call rest ih =>
      unfold applyUntilError at h ⊢
      simp only at h ⊢
      cases hfailure : (a.apply call).failure with
      | some failure =>
          rw [hfailure] at h
          simp only at h
          rw [hfailure] at h
          cases h
      | none =>
          rw [hfailure] at h
          exact ih h

/-- Settings fail where their customization does: the two calls before it are always accepted. -/
theorem failure_ofSettings (settings : Settings) (store : Bool) :
    (ofSettings settings store).failure =
      (Options.initial.customize ((settings.optionCalls store).map Except.ok)).obstacle.map
        CallFailure.ofObstacle := by
  cases hobstacle :
      (Options.initial.customize ((settings.optionCalls store).map Except.ok)).obstacle <;>
    simp [ofSettings, Settings.assemblyCalls, applyUntilError, apply, setGiven, initial,
      InvalidArgument.require, Called.ok, hobstacle]

/-- Settings that set up an assembly without a failure made all their calls with effect. -/
theorem accepted_of_ofSettings {settings : Settings} {store : Bool}
    (h : (ofSettings settings store).failure = none) :
    Options.accepted ((settings.optionCalls store).map Except.ok) = settings.optionCalls store := by
  rw [failure_ofSettings, Option.map_eq_none_iff] at h
  exact Options.accepted_of_obstacle_eq_none h

theorem optionCalls_assemblyCalls {settings : Settings} {store : Bool}
    (h : (ofSettings settings store).failure = none) :
    optionCalls (settings.assemblyCalls store) = settings.optionCalls store := by
  simp [optionCalls, Settings.assemblyCalls, accepted_of_ofSettings h]

/-! ## Where a script starts -/

/-- An assembly that a script can start from, with the calls that were made on it before: there are
none, or they are those of settings, of which none failed. -/
inductive Start : Assembly → List Call → Prop
  | fresh : Start initial []
  | settings {settings : Settings} {store : Bool}
      (h : (ofSettings settings store).failure = none) :
      Start (ofSettings settings store).assembly (settings.assemblyCalls store)

theorem Start.eq {a : Assembly} {before : List Call} (h : a.Start before) : a = ofCalls before := by
  cases h with
  | fresh => rfl
  | settings h =>
      rw [← applyAll_initial]
      exact assembly_applyUntilError h

/-- An assembly that a script leaves, with the history of calls that the script amounts to. -/
inductive LeftBy : Assembly → List Call → Prop
  | script {start : Assembly} {before : List Call} (h : start.Start before)
      (script : List Operation) : LeftBy (start.perform script) (before ++ madeCalls script)

/-- A script leaves what its history leaves. -/
theorem LeftBy.eq {a : Assembly} {history : List Call} (h : a.LeftBy history) :
    a = initial.applyAll history := by
  cases h with
  | script h script => rw [perform_eq_applyAll, h.eq, applyAll_ofCalls, applyAll_initial]

end Assembly

end SignOut
