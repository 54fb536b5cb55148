import SignOut.Json
import SignOut.Log.Layout

/-!
# Plans for the log

A plan says which level and layout the log is to have.  It is taken from the environment, and
it can be written out in full.
-/

namespace SignOut.Log

/-- The level, by its name, and the layout of the log. -/
structure Plan where
  level : String
  layout : Layout
deriving DecidableEq, Repr

/-- The logger of the stage, above all loggers of its parts. -/
def stageLogger : String := "neo_logout"

/-- The loggers that are only to report errors. -/
def errorLoggers : List String := ["httpx", "httpcore", "asyncio"]

namespace Plan

/-- The plan of an environment.  A level that is given and not empty wins over the
verbosity. -/
def ofEnvironment (environment : Keyed String) : Plan :=
  let verbosity := Verbosity.ofText ((Keyed.get? "LOG_VERBOSITY" environment).getD "NORMAL")
  let layout := Layout.ofText ((Keyed.get? "LOG_FORMAT" environment).getD "simple")
  match Keyed.get? "LOG_LEVEL" environment with
  | none => { level := verbosity.level.name, layout }
  | some level =>
      if level = "" then { level := verbosity.level.name, layout }
      else { level := Text.upperText level, layout }

/-- What a plan says of a logger: its level, and that its records go to the console alone. -/
def loggerJson (level : String) : Json :=
  .object
    [("level", .string level), ("handlers", .array [.string "console"]),
     ("propagate", .bool false)]

/-- The loggers of a plan. -/
def loggersJson (plan : Plan) : Json :=
  .object
    ((stageLogger, loggerJson plan.level) ::
      errorLoggers.map fun logger => (logger, loggerJson Level.error.name))

/-- The plan written out in full. -/
def toJson (plan : Plan) : Json :=
  .object
    [("version", .int 1), ("disable_existing_loggers", .bool false),
     ("formatters", .object
       [("default", .object
         [("format", .string plan.layout.pattern), ("datefmt", .string Layout.timePattern)])]),
     ("handlers", .object
       [("console", .object
         [("class", .string "logging.StreamHandler"), ("level", .string plan.level),
          ("formatter", .string "default"), ("stream", .string "ext://sys.stdout")])]),
     ("loggers", plan.loggersJson)]

end Plan

end SignOut.Log
