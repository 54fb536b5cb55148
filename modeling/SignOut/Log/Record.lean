import SignOut.Log.Level

/-!
# Log records

A record is what the stage has to say: its level, the logger through which it goes and its
message.  An entry is a record together with the name that its level was given by, and where and
when it was made; the place may be unknown.
-/

namespace SignOut

/-- A record for the log. -/
structure LogRecord where
  level : Log.Level
  logger : String
  message : String
deriving DecidableEq, Repr

namespace Log

/-- A record with the name of its level, which may be an alias, the file and line that made it,
and its time in seconds since the start of 1970. -/
structure Entry where
  record : LogRecord
  levelName : String
  file : Option String
  line : Option Int
  time : Int
deriving DecidableEq, Repr

end Log

end SignOut
