import SignOut.Log.Loggers
import SignOut.Proofs.Messages

/-!
# Log lines in the data format

A log in the data format puts the parts of a record between quotes as they are.  Such a line is read
as an object with the message of the record exactly if the message needs no escape; otherwise the
line is malformed or tells something else.  What it tells is then up to whoever chose the text: the
path of a request can close the message and go on with members of its own, and the reader takes the
last member of a name.
-/

namespace SignOut

open Json (isVerbatim Verbatim)

namespace Log

/-! ## The line of an entry -/

/-- A record made at a place and a moment, under the own name of its level. -/
def Entry.ofRecord (file : Option String) (number : Option Int) (time : Int)
    (record : LogRecord) : Entry :=
  { record, levelName := record.level.name, file, line := number, time }

/-- The names of the members of a line. -/
def memberNames : List String := ["time", "level", "module", "message"]

/-- The line is an object of the data format that has a message, as it is, for its message, and no
members but the four of a line. -/
def Conveys (line message : String) : Prop :=
  ∃ members, Json.parse line.toList = .ok (.object members) ∧
    Keyed.get? "message" members = some (.string message) ∧
    ∀ member ∈ members, member.1 ∈ memberNames

/-- The members of a line in front of its message. -/
def leading (written level logger : String) : List (String × String) :=
  [("time", written), ("level", level), ("module", logger)]

/-- An object with the four members of a line. -/
def account (written level logger message : String) : Json :=
  .object
    [("time", .string written), ("level", .string level), ("module", .string logger),
      ("message", .string message)]

variable {written level logger message line : String}

theorem verbatim_level (level : Level) : Verbatim level.name.toList := by
  cases level <;> decide

theorem verbatim_leading (hwritten : Verbatim written.toList) (hlevel : Verbatim level.toList)
    (hlogger : Verbatim logger.toList) :
    ∀ member ∈ leading written level logger, Json.VerbatimMember member := by
  have hnames : Verbatim "time".toList ∧ Verbatim "level".toList ∧ Verbatim "module".toList := by
    decide
  simp only [leading, List.forall_mem_cons]
  exact ⟨⟨hnames.1, hwritten⟩, ⟨hnames.2.1, hlevel⟩, ⟨hnames.2.2, hlogger⟩, List.forall_mem_nil _⟩

/-- A message without escapes gives a line with the four members as they are. -/
theorem parse_line (hleading : ∀ member ∈ leading written level logger, Json.VerbatimMember member)
    (hline : line.toList = Json.objectText (leading written level logger) "message" message)
    (hmessage : Verbatim message.toList) :
    Json.parse line.toList = .ok (account written level logger message) := by
  have hname : Verbatim "message".toList := by decide
  rw [hline, Json.parse_objectText hleading ⟨hname, hmessage⟩]
  rfl

/-- A line conveys its message iff the message needs no escape. -/
theorem conveys_iff (hleading : ∀ member ∈ leading written level logger, Json.VerbatimMember member)
    (hline : line.toList = Json.objectText (leading written level logger) "message" message) :
    Conveys line message ↔ Verbatim message.toList := by
  constructor
  · rintro ⟨members, hparse, hread, -⟩
    rw [hline] at hparse
    exact Json.verbatim_of_parse_objectText hleading (by decide) (by simp [leading]) hparse hread
  · intro hmessage
    refine ⟨_, parse_line hleading hline hmessage, rfl, ?_⟩
    simp [memberNames]

/-- The layout puts the parts of an entry into the line as they are. -/
theorem format?_json {entry : Entry} (h : Calendar.plainText entry.time = .ok written) :
    ∃ line, Layout.json.format? entry = some line ∧
      line.toList = Json.objectText (leading written entry.levelName entry.record.logger) "message"
        entry.record.message := by
  refine ⟨_, by simp only [Layout.format?, h]; rfl, ?_⟩
  simp [String.join, Json.objectText, Json.written, Json.opening, leading]

namespace Loggers

/-- The line that the console makes of an entry. -/
def line? (loggers : Loggers) (entry : Entry) : Option String :=
  loggers.console.bind fun console => console.layout.format? entry

/-- The console makes a line of an entry that conveys its message. -/
def Conveys (loggers : Loggers) (entry : Entry) : Prop :=
  ∃ line, loggers.line? entry = some line ∧ Log.Conveys line entry.record.message

/-- Nothing else is written for an entry but its line and a line end. -/
theorem written_cases (loggers : Loggers) (entry : Entry) :
    loggers.written entry = "" ∨
      ∃ line, loggers.line? entry = some line ∧ loggers.written entry = line ++ "\n" := by
  unfold written line?
  cases loggers.console with
  | none => exact .inl rfl
  | some console =>
      dsimp only [Option.bind_some]
      split
      · cases hline : console.layout.format? entry with
        | none => exact .inl rfl
        | some line => exact .inr ⟨line, rfl, rfl⟩
      · exact .inl rfl

/-- The console writes its lines in a layout. -/
def Lays (loggers : Loggers) (layout : Layout) : Prop :=
  ∃ console, loggers.console = some console ∧ console.layout = layout

/-- The environment asks for the layout of the data format, in any case. -/
def AsksForJson (environment : Keyed String) : Prop :=
  ∃ format, Keyed.get? "LOG_FORMAT" environment = some format ∧ Text.lowerText format = "json"

theorem layout_of_asksForJson {environment : Keyed String} (h : AsksForJson environment) :
    (Plan.ofEnvironment environment).layout = .json := by
  obtain ⟨format, hgiven, hjson⟩ := h
  have hlayout : Layout.ofText ((Keyed.get? "LOG_FORMAT" environment).getD "simple") = .json := by
    rw [hgiven, Option.getD_some, Layout.ofText, hjson]
    rfl
  unfold Plan.ofEnvironment
  dsimp only
  split
  · exact hlayout
  · split
    · exact hlayout
    · exact hlayout

variable {environment : Keyed String} {loggers configured : Loggers} {time : Int}

theorem lays_json_of_configure (hjson : AsksForJson environment)
    (hconfigured : loggers.configure (Plan.ofEnvironment environment) = .ok configured) :
    configured.Lays .json := by
  unfold configure at hconfigured
  split at hconfigured
  · cases hconfigured
  · cases hconfigured
    exact ⟨_, rfl, layout_of_asksForJson hjson⟩

/-- The line of a record in the data format, through a logger whose name needs no escape: all its
members in front of the message are verbatim. -/
theorem exists_line (hlays : loggers.Lays .json) (htime : Calendar.plainText time = .ok written)
    (file : Option String) (number : Option Int) (record : LogRecord)
    (hlogger : Verbatim record.logger.toList) :
    ∃ line, loggers.line? (.ofRecord file number time record) = some line ∧
      line.toList = Json.objectText (leading written record.level.name record.logger) "message"
        record.message ∧
      ∀ member ∈ leading written record.level.name record.logger, Json.VerbatimMember member := by
  obtain ⟨console, hconsole, hlayout⟩ := hlays
  let entry : Entry := .ofRecord file number time record
  have hentry : Calendar.plainText entry.time = .ok written := htime
  obtain ⟨line, hline, htext⟩ := format?_json hentry
  refine ⟨line, ?_, htext, verbatim_leading (Json.verbatim_plainText htime)
    (verbatim_level record.level) hlogger⟩
  rw [line?, hconsole, Option.bind_some, hlayout]
  exact hline

/-- The line of a record conveys its message iff the message needs no escape. -/
theorem conveys_ofRecord_iff (hlays : loggers.Lays .json)
    (htime : Calendar.plainText time = .ok written) (file : Option String) (number : Option Int)
    (record : LogRecord) (hlogger : Verbatim record.logger.toList) :
    loggers.Conveys (.ofRecord file number time record) ↔ Verbatim record.message.toList := by
  obtain ⟨line, hline, htext, hleading⟩ := exists_line hlays htime file number record hlogger
  rw [← conveys_iff hleading htext]
  constructor
  · rintro ⟨other, hother, hconveys⟩
    rw [hline] at hother
    cases hother
    exact hconveys
  · intro hconveys
    exact ⟨line, hline, hconveys⟩

/-! ## Lines that tell something else -/

/-- A text that stays as it is in the path of a target and needs no escape in a line. -/
def Portable (text : String) : Prop :=
  ∀ c ∈ text.toList, c ∉ Request.alteredChars ∧ isVerbatim c = true

theorem Portable.verbatim {text : String} (h : Portable text) : Verbatim text.toList :=
  fun c hc => (h c hc).2

/-- What ends the value of a member and opens that of the next one. -/
def between (name : String) : String :=
  "\",\"" ++ name ++ "\":\""

theorem toList_between (name : String) :
    (between name).toList = '"' :: ',' :: Json.opening name := by
  simp [between, Json.opening]

/-- A path that ends the message of its record and goes on with members of its own. -/
def forgedPath (level logger message : String) : String :=
  "/" ++ between "level" ++ level ++ between "module" ++ logger ++ between "message" ++ message

/-- A request can arrive at such a path. -/
theorem isNormal_forgedPath {level logger message : String} (hlevel : Portable level)
    (hlogger : Portable logger) (hmessage : Portable message) :
    Request.IsNormal (forgedPath level logger message).toList := by
  have hfixed : ∀ text ∈ ["/", between "level", between "module", between "message"],
      ∀ c ∈ text.toList, c ∉ Request.alteredChars := by
    simp [between, Request.alteredChars]
  simp only [List.forall_mem_cons] at hfixed
  obtain ⟨hslash, hbeforeLevel, hbeforeLogger, hbeforeMessage, -⟩ := hfixed
  constructor
  · exact .inr (by simp [forgedPath])
  · intro c hc
    simp only [forgedPath, String.toList_append, List.mem_append] at hc
    rcases hc with (((((hc | hc) | hc) | hc) | hc) | hc) | hc
    · exact hslash c hc
    · exact hbeforeLevel c hc
    · exact (hlevel c hc).1
    · exact hbeforeLogger c hc
    · exact (hlogger c hc).1
    · exact hbeforeMessage c hc
    · exact (hmessage c hc).1

/-- The line of a sign-out through such a path is an account that the path has chosen: of its own
parts, the time and the end of the message are left. -/
theorem parse_line_forgedPath {time level logger message line : String} (e : Exchange)
    (htime : Verbatim time.toList) (hlevel : Verbatim level.toList)
    (hlogger : Verbatim logger.toList) (hmessage : Verbatim message.toList)
    (hmethod : Verbatim e.request.method.toList)
    (hline : line.toList =
      Json.objectText (leading time Level.info.name Stage.logger) "message"
        (Stage.completion (forgedPath level logger message) e).message) :
    Json.parse line.toList = .ok (account time level logger (message ++ Stage.ending e)) := by
  -- the message that the stage began is one of the members in front, and the end of the path's own
  -- message is the last one
  let ahead := leading time Level.info.name Stage.logger ++
    [("message", "Logout completed: path=" ++ "/"), ("level", level), ("module", logger)]
  have htext : line.toList = Json.objectText ahead "message" (message ++ Stage.ending e) := by
    rw [hline, Stage.message_completion]
    simp only [ahead, leading, forgedPath, Json.objectText, Json.written_cons, Json.written_nil,
      toList_between, String.toList_append, List.append_assoc, List.cons_append, List.nil_append]
  have hahead : ∀ member ∈ ahead, Json.VerbatimMember member := by
    have hnames : Verbatim "message".toList ∧ Verbatim "level".toList ∧
        Verbatim "module".toList ∧ Verbatim ("Logout completed: path=" ++ "/").toList := by
      decide
    obtain ⟨hnameMessage, hnameLevel, hnameLogger, hstart⟩ := hnames
    refine List.forall_mem_append.mpr ⟨verbatim_leading htime (by decide) (by decide), ?_⟩
    simp only [List.forall_mem_cons]
    exact ⟨⟨hnameMessage, hstart⟩, ⟨hnameLevel, hlevel⟩, ⟨hnameLogger, hlogger⟩,
      List.forall_mem_nil _⟩
  have hlast : Verbatim (message ++ Stage.ending e).toList := by
    rw [String.toList_append, Json.verbatim_append, Stage.verbatim_ending_iff]
    exact ⟨hmessage, hmethod⟩
  have hname : Verbatim "message".toList := by decide
  rw [htext, Json.parse_objectText hahead ⟨hname, hlast⟩]
  rfl

/-! ## The records of the stage -/

/-- All that a log in the data format writes of an entry is its line.  Of the records through a
logger whose name needs no escape it conveys exactly those whose message needs none, and the lines
of these are read as the four parts of the record.  So a remark on a path is conveyed iff both paths
are plain, the record of a built stage iff its path needs no escape, and the record of a sign-out iff
the method needs none and neither does any character of the request's path that the target does not
alter; removals of stored sessions are always conveyed.  A line that does not convey its message can
tell anything else: any level, any logger and any start of a message are told by the record of a
sign-out through some path at which a request can arrive. -/
theorem conveys_iff_verbatim (hjson : AsksForJson environment)
    (hconfigured : loggers.configure (Plan.ofEnvironment environment) = .ok configured)
    (htime : Calendar.plainText time = .ok written) (file : Option String) (number : Option Int) :
    (∀ entry, configured.written entry = "" ∨
      ∃ line, configured.line? entry = some line ∧ configured.written entry = line ++ "\n") ∧
    (∀ record : LogRecord, Verbatim record.logger.toList →
      (configured.Conveys (.ofRecord file number time record) ↔
        Verbatim record.message.toList) ∧
      (Verbatim record.message.toList →
        ∃ line, configured.line? (.ofRecord file number time record) = some line ∧
          Json.parse line.toList =
            .ok (account written record.level.name record.logger record.message))) ∧
    (∀ ignored inEffect,
      configured.Conveys (.ofRecord file number time (Options.ignoredPath ignored inEffect)) ↔
        Text.Plain ignored.toList ∧ Text.Plain inEffect.toList) ∧
    (∀ (a : Assembly) c, a.buildConfiguration = .ok c → ∃ options, a.options = some options ∧
      (configured.Conveys (.ofRecord file number time (Assembly.built c)) ↔
        Verbatim options.effectivePath.toList)) ∧
    (∀ (r : Request) path, r.urlPath = .ok path → ∀ e,
      configured.Conveys (.ofRecord file number time (Stage.completion path e)) ↔
        (∀ c ∈ r.path.toList, c ∈ Request.alteredChars ∨ isVerbatim c = true) ∧
          Verbatim e.request.method.toList) ∧
    (∀ deleted, configured.Conveys (.ofRecord file number time (Handler.removal deleted))) ∧
    ∀ level logger message, Portable level → Portable logger → Portable message →
      ∃ path, Request.targetPath path.toList = path.toList ∧
        ∀ e : Exchange, Verbatim e.request.method.toList →
          ∃ line,
            configured.line? (.ofRecord file number time (Stage.completion path e)) = some line ∧
            Json.parse line.toList =
              .ok (account written level logger (message ++ Stage.ending e)) := by
  have hlays := lays_json_of_configure hjson hconfigured
  have hloggers : Verbatim Options.logger.toList ∧ Verbatim Stage.logger.toList ∧
      Verbatim Handler.removalLogger.toList := by
    decide
  obtain ⟨hassembly, hstage, hremoval⟩ := hloggers
  have hconveys := conveys_ofRecord_iff hlays htime file number
  refine ⟨configured.written_cases, ?_, ?_, ?_, ?_, ?_, ?_⟩
  · intro record hlogger
    refine ⟨hconveys record hlogger, fun hmessage => ?_⟩
    obtain ⟨line, hline, htext, hleading⟩ := exists_line hlays htime file number record hlogger
    exact ⟨line, hline, parse_line hleading htext hmessage⟩
  · intro ignored inEffect
    rw [hconveys (Options.ignoredPath ignored inEffect) hassembly]
    exact Options.verbatim_ignoredPath_iff ignored inEffect
  · intro a c hbuilt
    obtain ⟨options, hoptions, hsnapshot⟩ :=
      Assembly.exists_snapshot_of_buildConfiguration hbuilt
    refine ⟨options, hoptions, ?_⟩
    rw [hconveys (Assembly.built c) hassembly,
      Assembly.verbatim_built_iff (Options.methods_of_snapshot hsnapshot),
      Options.logoutPath_of_snapshot hsnapshot, Option.getD_some]
  · intro r path hpath e
    obtain rfl := Request.urlPath_eq_ok hpath
    rw [hconveys (Stage.completion _ e) hstage, Stage.verbatim_completion_iff,
      String.toList_ofList, Request.verbatim_targetPath_iff]
  · intro deleted
    rw [hconveys (Handler.removal deleted) hremoval]
    exact Handler.verbatim_removal deleted
  · intro level logger message hlevel hlogger hmessage
    refine ⟨forgedPath level logger message,
      Request.targetPath_of_isNormal (isNormal_forgedPath hlevel hlogger hmessage), ?_⟩
    intro e hmethod
    obtain ⟨line, hline, htext, -⟩ := exists_line hlays htime file number
      (Stage.completion (forgedPath level logger message) e) hstage
    exact ⟨line, hline, parse_line_forgedPath e (Json.verbatim_plainText htime) hlevel.verbatim
      hlogger.verbatim hmessage.verbatim hmethod htext⟩

/-- The loggers of a log in the data format, at the level that nothing else was asked for. -/
def sampleLoggers : Loggers :=
  { levels := (stageLogger, .warning) :: errorLoggers.map fun logger => (logger, .error)
    root := .warning, console := some { level := .warning, layout := .json } }

theorem conveys_iff_verbatim_sample :
    AsksForJson [("LOG_FORMAT", "JSON")] ∧
      initial.configure (Plan.ofEnvironment [("LOG_FORMAT", "JSON")]) = .ok sampleLoggers ∧
      Calendar.plainText 1700000000 = .ok "2023-11-14 22:13:20" ∧
      sampleLoggers.Conveys
        (.ofRecord none none 1700000000 (Options.ignoredPath "/bye" "/logout")) ∧
      ¬ sampleLoggers.Conveys
        (.ofRecord none none 1700000000 (Options.ignoredPath "/it's" "/logout")) := by
  have hjson : AsksForJson [("LOG_FORMAT", "JSON")] := ⟨"JSON", rfl, by decide⟩
  have hconfigured : initial.configure (Plan.ofEnvironment [("LOG_FORMAT", "JSON")]) =
      .ok sampleLoggers := rfl
  have htime : Calendar.plainText 1700000000 = .ok "2023-11-14 22:13:20" := rfl
  obtain ⟨-, -, hremark, -⟩ := conveys_iff_verbatim hjson hconfigured htime none none
  refine ⟨hjson, hconfigured, htime, (hremark "/bye" "/logout").mpr (by decide), fun h => ?_⟩
  exact absurd ((hremark "/it's" "/logout").mp h).1 (by decide)

/-- The line of the remark on a path with an apostrophe. -/
def brokenLine : String :=
  "\x7b\"time\":\"2023-11-14 22:13:20\",\"level\":\"WARNING\"," ++
    "\"module\":\"neo_logout.configurers\"," ++
    "\"message\":\"Ignoring logout path \"/it's\"; already configured as '/x'\"\x7d"

theorem line?_apostrophe :
    sampleLoggers.line? (.ofRecord none none 1700000000 (Options.ignoredPath "/it's" "/x")) =
      some brokenLine := by
  decide +kernel

theorem parse_brokenLine : Json.parse brokenLine.toList = .error .malformed := by
  have hleading : ∀ member ∈ leading "2023-11-14 22:13:20" Level.warning.name Options.logger,
      Json.VerbatimMember member :=
    verbatim_leading (by decide) (verbatim_level .warning) (by decide)
  have hline : brokenLine.toList =
      Json.objectText (leading "2023-11-14 22:13:20" Level.warning.name Options.logger) "message"
        ("Ignoring logout path " ++ "\"" ++ "/it's\"; already configured as '/x'") := by
    decide +kernel
  rw [hline]
  exact Json.parse_objectText_of_quote hleading (by decide) (by decide) rfl (by decide) (by decide)

/-- An apostrophe puts a path between double quotes, and these end the string that the message
stands in: the line is no value of the data format at all. -/
theorem breaks_at_apostrophe :
    (Options.initial.customize
        [.ok (.setPath (some "/x")), .ok (.setPath (some "/it's"))]).records =
      [Options.ignoredPath "/it's" "/x"] ∧
    initial.configure (Plan.ofEnvironment [("LOG_FORMAT", "json")]) = .ok sampleLoggers ∧
    sampleLoggers.written
        (.ofRecord none none 1700000000 (Options.ignoredPath "/it's" "/x")) =
      brokenLine ++ "\n" ∧
    Json.parse brokenLine.toList = .error .malformed ∧
    ¬ sampleLoggers.Conveys
      (.ofRecord none none 1700000000 (Options.ignoredPath "/it's" "/x")) := by
  refine ⟨rfl, rfl, ?_, parse_brokenLine, ?_⟩
  · decide +kernel
  · rintro ⟨line, hline, members, hparse, -⟩
    rw [line?_apostrophe] at hline
    cases hline
    rw [parse_brokenLine] at hparse
    cases hparse

end Loggers

end Log

end SignOut
