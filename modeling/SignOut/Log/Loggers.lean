import SignOut.Log.Plan

/-!
# Loggers and the console

Loggers form a tree by their dotted names.  A record passes a logger by the level of that
logger, or of its nearest ancestor that has one; it is written if the logger lies below one of
the loggers that the console serves, and if it passes the console's own level.
-/

namespace SignOut.Log

/-- The console: the level from which it writes, and its layout. -/
structure Console where
  level : Level
  layout : Layout
deriving DecidableEq, Repr

/-- The levels of the loggers, the level at the root of the tree, and the console once there is
one. -/
structure Loggers where
  levels : Keyed Level
  root : Level
  console : Option Console

/-- Why a change of the log is refused. -/
inductive Refusal where
  | unknownPlanLevel
  | unknownName (name : String)
  | notALevel (value : String)
  | notAName (value : String)
deriving DecidableEq, Repr

/-- The words for a refusal. -/
def Refusal.message : Refusal → String
  | unknownPlanLevel => "Unable to configure handler 'console'"
  | unknownName name => s!"module 'logging' has no attribute '{name}'"
  | notALevel value => "Unknown level: " ++ Text.quote value
  | notAName value => "Level not an integer or a valid string: " ++ value

namespace Loggers

/-- No logger has a level, and nothing is written. -/
def initial : Loggers :=
  { levels := [], root := .warning, console := none }

/-- A name of the root of the tree. -/
def isRoot (logger : String) : Bool :=
  logger == "" || logger == "root"

/-- The own level of a logger. -/
def level (loggers : Loggers) (logger : String) : Level :=
  if isRoot logger then loggers.root else (Keyed.get? logger loggers.levels).getD .unset

/-- The loggers that the console serves. -/
def served : List String :=
  stageLogger :: errorLoggers

/-- Whether a name lies below another one. -/
def isBelow (logger ancestor : String) : Bool :=
  (ancestor.toList ++ ['.']).isPrefixOf logger.toList

/-- The names from the first parts of a dotted name up to the whole of it, given reversed. -/
def ancestry : List Char → List (List Char)
  | [] => []
  | c :: rest => if c = '.' then rest :: ancestry rest else ancestry rest

/-- A logger and its ancestors without the root, the nearest first. -/
def lineage (logger : String) : List String :=
  logger :: ((ancestry logger.toList.reverse).map fun name => String.ofList name.reverse)

/-- The first level of a list that is set. -/
def firstSet (otherwise : Level) : List Level → Level
  | [] => otherwise
  | .unset :: rest => firstSet otherwise rest
  | level :: _ => level

/-- The level by which records pass a logger: its own, or that of its nearest ancestor. -/
def effectiveLevel (loggers : Loggers) (logger : String) : Level :=
  firstSet loggers.root ((lineage logger).map loggers.level)

/-- Whether the records of a logger reach the console. -/
def isServed (logger : String) : Bool :=
  served.any fun top => logger == top || isBelow logger top

/-- Give a logger a level. -/
def put (loggers : Loggers) (logger : String) (level : Level) : Loggers :=
  if isRoot logger then { loggers with root := level }
  else { loggers with levels := Keyed.put logger level loggers.levels }

/-- Put a plan into effect.  Loggers below the ones that the plan names lose their levels; a
plan with an unknown level changes nothing. -/
def configure (loggers : Loggers) (plan : Plan) : Except Refusal Loggers :=
  match Level.ofName? plan.level with
  | none => .error .unknownPlanLevel
  | some level =>
      let kept := loggers.levels.filter fun entry => !isServed entry.1
      let named := (stageLogger, level) :: errorLoggers.map fun logger => (logger, .error)
      .ok { loggers with levels := named ++ kept, console := some { level, layout := plan.layout } }

/-- The name under which a text lies that is no level. -/
def formatName : String := "BASIC_FORMAT"

/-- The text that lies among the level names without being a level. -/
def formatText : String := "%(levelname)s:%(name)s:%(message)s"

/-- The name under which a table lies that is no level. -/
def tableName : String := "_STYLES"

/-- The row of a style of layouts: its mark, its name and its plain layout. -/
def styleText (mark name layout : String) : String :=
  s!"'{mark}': (<class 'logging.{name}'>, '{layout}')"

/-- The table that lies among the level names: the three styles of layouts. -/
def tableText : String :=
  "\x7b" ++ ", ".intercalate
    [styleText "%" "PercentStyle" formatText,
     styleText "\x7b" "StrFormatStyle" "\x7blevelname\x7d:\x7bname\x7d:\x7bmessage\x7d",
     styleText "$" "StringTemplateStyle"
       "$\x7blevelname\x7d:$\x7bname\x7d:$\x7bmessage\x7d"] ++ "\x7d"

/-- Give a logger the level of a name in any case. -/
def setLevel (loggers : Loggers) (logger name : String) : Except Refusal Loggers :=
  let name := Text.upperText name
  match Level.ofName? name with
  | some level => .ok (loggers.put logger level)
  | none =>
      if name = formatName then .error (.notALevel formatText)
      else if name = tableName then .error (.notAName tableText)
      else .error (.unknownName name)

/-- Whether a record passes its logger; a record whose level is not set passes none. -/
def isEnabled (loggers : Loggers) (record : LogRecord) : Bool :=
  record.level ≠ .unset && (loggers.effectiveLevel record.logger).rank ≤ record.level.rank

/-- The text that an entry adds to the console. -/
def written (loggers : Loggers) (entry : Entry) : String :=
  match loggers.console with
  | none => ""
  | some console =>
      if loggers.isEnabled entry.record && isServed entry.record.logger &&
          console.level.rank ≤ entry.record.level.rank then
        ((console.layout.format? entry).map (· ++ "\n")).getD ""
      else ""

end Loggers

end SignOut.Log
