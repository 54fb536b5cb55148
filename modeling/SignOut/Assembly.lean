import SignOut.Options

/-!
# Building the stage

An assembly collects the collaborators of the stage and one set of sign-out options, which all
its calls share.  Refused arguments surface as configuration errors that name their cause, and
faults pass unchanged; what a failing call had accepted before stays.  Building takes a snapshot
and changes nothing.
-/

namespace SignOut

/-- What a hook returns for a stage: the stage itself, a wrapper around it, a filter of the
application, or an object of the named type that cannot process requests. -/
inductive Replacement where
  | itself
  | wrapper
  | substitute (s : Substitute)
  | other (typeName : String)

/-- The filter that a hook returned for a stage, or the name of the type of what is none. -/
def Replacement.asFilter (stage : Stage) : Replacement → Except String Filter
  | .itself => .ok (.stage stage)
  | .wrapper => .ok (.decorated stage)
  | .substitute s => .ok (.substitute s)
  | .other typeName => .error typeName

/-- One run of a hook: the calls that it recorded, and what it returned, unless an argument that it
refused or a fault stopped it. -/
structure HookRun where
  calls : List Call
  outcome : Except Obstacle Replacement

/-- A hook that may wrap or replace a stage that was built: the name of its type, and how it runs
on a stage. -/
structure PostProcessor where
  typeName : String
  act : Stage → HookRun

namespace PostProcessor

/-- A hook that records the stage and ends in the same way for all stages. -/
def recording (outcome : Except Obstacle Replacement) : PostProcessor :=
  { typeName := "PostProcessor"
    act := fun stage =>
      { calls := [.postProcessed (Filter.stage stage).typeName], outcome } }

/-- A hook that returns the stage. -/
def same : PostProcessor := recording (.ok .itself)

/-- A hook that wraps the stage. -/
def decorate : PostProcessor := recording (.ok .wrapper)

/-- A hook that returns nothing. -/
def nothing : PostProcessor := recording (.ok (.other "NoneType"))

/-- A hook that returns an object without the operation of a filter. -/
def object : PostProcessor := recording (.ok (.other "object"))

/-- A hook that returns an object whose operation cannot be called. -/
def notCallable : PostProcessor := recording (.ok (.other "NotCallableProcess"))

/-- A hook that fails. -/
def failing : PostProcessor := recording (.error (.fault (.raised "post-processing failed")))

end PostProcessor

/-- A value offered as a hook. -/
inductive HookCandidate where
  | hook (processor : PostProcessor)
  | foreign (value : Foreign)

/-- The collaborators collected so far. -/
structure Assembly where
  options : Option Options
  csrfEnabled : Bool
  repository : Option TokenRepository
  rememberMe : Option RememberMe
  loginPath : String
  publisher : Option Publisher
  processor : Option PostProcessor

/-- Why a build produced no filter. -/
inductive BuildFailure where
  | configuration (e : ConfigurationError)
  | argument (e : InvalidArgument)
  | collaborator (fault : Fault)

/-- The failure of a build whose hook was stopped. -/
def BuildFailure.ofObstacle : Obstacle → BuildFailure
  | .refused e => .argument e
  | .fault f => .collaborator f

namespace Assembly

/-- Nothing collected. -/
def initial : Assembly :=
  { options := none, csrfEnabled := true, repository := none, rememberMe := none
    loginPath := defaultLoginPath, publisher := none, processor := none }

/-- A call on the assembly. -/
inductive Call where
  | logout (customization : List Options.Step)
  | csrf (enabled : Bool) (repository : Option TokenRepository)
  | rememberMe (services : Option RememberMe)
  | loginPath (path : Option String)
  | eventPublisher (publisher : Option Publisher)
  | postProcessor (candidate : HookCandidate)

/-- Why a call failed. -/
inductive CallFailure where
  | configuration (e : ConfigurationError)
  | fault (f : Fault)

/-- The failure of a customization that ended early. -/
def CallFailure.ofObstacle : Obstacle → CallFailure
  | .refused e => .configuration (.rejected .logout e)
  | .fault f => .fault f

/-- The assembly after a call, what was logged, and why the call failed. -/
structure Called where
  assembly : Assembly
  records : List LogRecord
  failure : Option CallFailure

/-- A call that succeeded and logged nothing. -/
def Called.ok (assembly : Assembly) : Called :=
  { assembly, records := [], failure := none }

/-- A call that was refused and changed nothing. -/
def Called.refused (assembly : Assembly) (error : ConfigurationError) : Called :=
  { assembly, records := [], failure := some (.configuration error) }

/-- Store an argument that must be given. -/
def setGiven {α : Type} (a : Assembly) (value : Option α) (argument : String)
    (update : α → Assembly) : Called :=
  match InvalidArgument.require value argument with
  | .ok v => .ok (update v)
  | .error e => .refused a (.rejected .security e)

/-- Make one call. -/
def apply (a : Assembly) : Call → Called
  | .logout customization =>
      let after := (a.options.getD .initial).customize customization
      { assembly := { a with options := some after.options }
        records := after.records
        failure := after.obstacle.map .ofObstacle }
  | .csrf enabled repository =>
      .ok { a with csrfEnabled := enabled, repository := repository <|> a.repository }
  | .rememberMe services =>
      a.setGiven services "services" fun services => { a with rememberMe := some services }
  | .loginPath path => a.setGiven path "login_path" fun path => { a with loginPath := path }
  | .eventPublisher publisher =>
      a.setGiven publisher "publisher" fun publisher => { a with publisher := some publisher }
  | .postProcessor (.hook processor) => .ok { a with processor := some processor }
  | .postProcessor (.foreign .nothing) =>
      .refused a (.rejected .security (.missing "processor"))
  | .postProcessor (.foreign value) => .refused a (.notAPostProcessor value.typeName)

/-- Make calls in order up to the first that fails. -/
def applyUntilError (a : Assembly) : List Call → Called
  | [] => .ok a
  | call :: rest =>
      let now := a.apply call
      match now.failure with
      | some _ => now
      | none =>
          let after := now.assembly.applyUntilError rest
          { after with records := now.records ++ after.records }

/-- Make calls in order; one that fails does not keep the others from being made. -/
def applyAll (a : Assembly) : List Call → Assembly
  | [] => a
  | call :: rest => (a.apply call).assembly.applyAll rest

/-- What a snapshot takes from the assembly. -/
def surroundings (a : Assembly) : Options.Surroundings :=
  { csrfEnabled := a.csrfEnabled, loginPath := some a.loginPath, repository := a.repository
    rememberMe := a.rememberMe, publisher := a.publisher }

/-- The configuration that the assembly describes. -/
def buildConfiguration (a : Assembly) : Except ConfigurationError Configuration :=
  match a.options with
  | none => .error .notEnabled
  | some options =>
      (options.snapshot a.surroundings).mapError ConfigurationError.unbuildable

/-- The filter that a run of a hook returned for a stage.  What is none is refused, and what stopped
the hook passes unchanged. -/
def postProcess (stage : Stage) (processor : PostProcessor) (run : HookRun) :
    Except BuildFailure Filter :=
  match run.outcome with
  | .error obstacle => .error (.ofObstacle obstacle)
  | .ok replacement =>
      match replacement.asFilter stage with
      | .error typeName => .error (.configuration (.notAFilter processor.typeName typeName))
      | .ok filter => .ok filter

/-- The log record of a stage that was built. -/
def built (c : Configuration) : LogRecord :=
  let methods := Text.quoteList c.methods
  let handlers := c.handlers.length
  let routes := c.routes.length
  let path := c.logoutPath.getD "None"
  let intro := s!"Logout stage built: path={path}, methods={methods}"
  { level := .info, logger := Options.logger
    message := s!"{intro}, handlers={handlers}, routes={routes}" }

/-- The result of a build and what could be observed of it. -/
structure Build where
  result : Except BuildFailure Filter
  calls : List SignOut.Call
  records : List LogRecord

/-- The end of a build in a filter, which is noted in the log, or in a failure, which is not. -/
def Build.ending (stage : Stage) (calls : List SignOut.Call) (result : Except BuildFailure Filter) :
    Build :=
  { result, calls, records := if result.isOk then [built stage.configuration] else [] }

/-- The build of a stage: a hook that is registered runs on the stage, once, and decides on the
result; without a hook the stage is the result. -/
def finish (a : Assembly) (stage : Stage) : Build :=
  match a.processor with
  | none => .ending stage [] (.ok (.stage stage))
  | some processor =>
      let run := processor.act stage
      .ending stage run.calls (postProcess stage processor run)

/-- Build the stage and let the hook see it. -/
def build (a : Assembly) : Build :=
  match a.buildConfiguration with
  | .error e => { result := .error (.configuration e), calls := [], records := [] }
  | .ok configuration =>
      match Stage.ofConfiguration configuration with
      | .error e => { result := .error (.argument e), calls := [], records := [] }
      | .ok stage => a.finish stage

end Assembly

end SignOut
