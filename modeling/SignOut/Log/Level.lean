import SignOut.Text.Case

/-!
# Levels of the log

A level has a rank; a logger or the console lets records pass whose rank is at least its own.
The level without a rank of its own stands for the level of the nearest ancestor.  Levels are
chosen by name, by an alias of a name, or through a verbosity.
-/

namespace SignOut.Log

/-- The importance of a record. -/
inductive Level where
  | unset
  | debug
  | info
  | warning
  | error
  | critical
deriving DecidableEq, Repr

namespace Level

/-- The rank by which levels are compared. -/
def rank : Level → Nat
  | unset => 0
  | debug => 10
  | info => 20
  | warning => 30
  | error => 40
  | critical => 50

/-- The name under which a level is written. -/
def name : Level → String
  | unset => "NOTSET"
  | debug => "DEBUG"
  | info => "INFO"
  | warning => "WARNING"
  | error => "ERROR"
  | critical => "CRITICAL"

/-- The level of a name or of one of the two aliases. -/
def ofName? : String → Option Level
  | "NOTSET" => some unset
  | "DEBUG" => some debug
  | "INFO" => some info
  | "WARN" => some warning
  | "WARNING" => some warning
  | "ERROR" => some error
  | "FATAL" => some critical
  | "CRITICAL" => some critical
  | _ => none

end Level

/-- How much the log tells. -/
inductive Verbosity where
  | quiet
  | normal
  | verbose
  | debug
deriving DecidableEq, Repr

namespace Verbosity

/-- The verbosity of a name in any case; an unknown name is the normal one. -/
def ofText (text : String) : Verbosity :=
  match Text.upperText text with
  | "QUIET" => .quiet
  | "VERBOSE" => .verbose
  | "DEBUG" => .debug
  | _ => .normal

/-- The level from which a verbosity lets records pass. -/
def level : Verbosity → Level
  | quiet => .error
  | normal => .warning
  | verbose => .info
  | debug => .debug

end Verbosity

end SignOut.Log
