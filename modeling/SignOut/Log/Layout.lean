import SignOut.Calendar
import SignOut.Log.Record

/-!
# Layouts of log lines

A layout is a sequence of fixed texts and parts of an entry.  The parts are written as they
are: nothing inside a message is escaped, whatever the layout.
-/

namespace SignOut.Log

/-- A part of a line. -/
inductive Piece where
  | fixed (text : String)
  | time
  | level
  | logger
  | message
  | file
  | line
deriving DecidableEq, Repr

namespace Piece

/-- The text of a part for an entry whose time is written as given.  A line is written as a
number, so an unknown one cannot be written. -/
def render? (entry : Entry) (written : String) : Piece → Option String
  | fixed text => some text
  | time => some written
  | level => some entry.levelName
  | logger => some entry.record.logger
  | message => some entry.record.message
  | file => some (entry.file.getD "None")
  | line => entry.line.map toString

/-- The placeholder of a part in a written layout. -/
def placeholder : Piece → String
  | fixed text => text
  | time => "%(asctime)s"
  | level => "%(levelname)s"
  | logger => "%(name)s"
  | message => "%(message)s"
  | file => "%(filename)s"
  | line => "%(lineno)d"

end Piece

/-- The layouts to choose from. -/
inductive Layout where
  | simple
  | detailed
  | json
deriving DecidableEq, Repr

namespace Layout

/-- The layout of a name in any case; an unknown name is the simple one. -/
def ofText (text : String) : Layout :=
  match Text.lowerText text with
  | "detailed" => .detailed
  | "json" => .json
  | _ => .simple

/-- The parts of a layout in order. -/
def pieces : Layout → List Piece
  | simple => [.time, .fixed " - ", .level, .fixed " - ", .message]
  | detailed =>
      [.time, .fixed " - ", .logger, .fixed " - ", .level, .fixed " - [", .file, .fixed ":",
       .line, .fixed "] - ", .message]
  | json =>
      [.fixed "\x7b\"time\":\"", .time, .fixed "\",\"level\":\"", .level,
       .fixed "\",\"module\":\"", .logger, .fixed "\",\"message\":\"", .message,
       .fixed "\"\x7d"]

/-- The layout as it is written in a configuration. -/
def pattern (layout : Layout) : String :=
  String.join (layout.pieces.map Piece.placeholder)

/-- The form in which times are written, in the terms of a configuration. -/
def timePattern : String := "%Y-%m-%d %H:%M:%S"

/-- The text of an entry, without the line end; an entry of which a part cannot be written has
none. -/
def format? (layout : Layout) (entry : Entry) : Option String := do
  let written ← (Calendar.plainText entry.time).toOption
  return String.join (← layout.pieces.mapM (Piece.render? entry written))

end Layout

end SignOut.Log
