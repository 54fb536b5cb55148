import SignOut.Error
import SignOut.Exchange
import SignOut.Text.Ordered

/-!
# Descriptions of an exchange

What can be seen of a run as values of the data format: principals, the changeable parts of the
request, the response, the store, recorded calls and log records, and the report of an error.
-/

namespace SignOut

/-- A principal without its id. -/
def Principal.describe : Option Principal → Json
  | none => .null
  | some (.text name) => .string name
  | some (.user name _) => .object [("kind", .string "user"), ("name", .string name)]
  | some (.simple name) => .object [("kind", .string "simple"), ("name", .string name)]
  | some .anonymous => .object [("kind", .string "anonymous")]
  | some .plain => .object [("kind", .string "plain")]

/-- The session, the user and the user context of a request; what is absent is left out. -/
def Request.describe (r : Request) : Json :=
  let session := r.session.toList.map fun s => ("session", Json.object s)
  let user := r.user.toList.map fun u => ("user", Principal.describe u)
  let context := r.userContext.toList.map fun u => ("user_context", Principal.describe u)
  .object (session ++ user ++ context)

/-- A response. -/
def Response.describe (r : Response) : Json :=
  .object
    [("status", Json.ofInt? r.status), ("body", .string r.body),
     ("headers", .array (r.headers.map fun line => Json.ofTexts [line.1, line.2]))]

/-- The records and index sets of a store, each in order. -/
def Store.describe (s : Store) : Json :=
  .object
    [("keys", Json.ofTexts (Text.ordered s.keys)),
     ("sets", .object (s.sets.map fun set => (set.1, Json.ofTexts (Text.ordered set.2))))]

/-- A recorded call: what was called, and with which arguments. -/
def Call.describe : Call → Json
  | .probed name => Json.ofTexts ["probe", name]
  | .loggedOut name p => .array [.string "logout", .string name, Principal.describe p]
  | .sawSession value => .array [.string "session", value.getD .null]
  | .failedLogout => Json.ofTexts ["logout", "failing"]
  | .clearedToken path => Json.ofTexts ["csrf.clear_token", path]
  | .published event => .array [.string "publish", event.toJson]
  | .forgotten p => .array [.string "remember_me.logout", Principal.describe p]
  | .deletedKey key => Json.ofTexts ["redis.delete", key]
  | .removedMember set member => Json.ofTexts ["redis.srem", set, member]
  | .succeeded name p => .array [.string "success", .string name, Principal.describe p]
  | .postProcessed name => Json.ofTexts ["post_process", name]
  | .decoratedProcess => Json.ofTexts ["decorated.process"]
  | .passedOn => .array [.string "call_next", .bool true]
  | .reachedApplication method path => Json.ofTexts ["downstream", method, path]

/-- A log record. -/
def LogRecord.describe (r : LogRecord) : Json :=
  Json.ofTexts [r.level.name, r.logger, r.message]

/-- The member that shows recorded calls, if there are any. -/
def Call.members (calls : List Call) : List (String × Json) :=
  if calls.isEmpty then [] else [("calls", .array (calls.map Call.describe))]

/-- The member that shows log records, if there are any. -/
def LogRecord.members (records : List LogRecord) : List (String × Json) :=
  if records.isEmpty then [] else [("logs", .array (records.map LogRecord.describe))]

/-- The members that show what was observed. -/
def Exchange.members (e : Exchange) : List (String × Json) :=
  Call.members e.calls ++ LogRecord.members e.records

/-- The report of an error. -/
def Report.describe (r : Report) : Json :=
  .object
    [("code", .string r.code), ("message", .string r.message), ("details", r.details),
     ("type", .string r.type)]

end SignOut
