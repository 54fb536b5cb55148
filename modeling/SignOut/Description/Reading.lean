import SignOut.Description.Fields
import SignOut.Handler
import SignOut.Numeric.Reading

/-!
# Reading an exchange

What a run starts from, read from values of the data format: principals, the request, the
response, the store, moments and events, and what single handlers are built from.  Members that
are left out have their usual values.  Header lines must fit one byte per character, or else
nothing is built from them.
-/

namespace SignOut

open Json

/-- A principal: nothing, a text, or an object that names its kind. -/
def Principal.ofJson? (value : Json) : Expected (Option Principal) := do
  match value with
  | .null => return none
  | .string name => return some (.text name)
  | _ =>
      match ← value.get "kind" asString with
      | "user" => return some (.user (← value.get "name" asString) (value.member? "user_id"))
      | "simple" => return some (.simple (← value.get "name" asString))
      | "anonymous" => return some .anonymous
      | "plain" => return some .plain
      | _ => .error "unknown principal"

/-- Header lines: pairs of a name and a value. -/
def HeaderLine.listOfJson (value : Json) : Expected (List HeaderLine) := do
  (← asArray value).mapM fun line => do
    match line with
    | .array [name, value] => return (← asString name, ← asString value)
    | _ => .error "header expected"

/-- A text that fits one byte per character. -/
def requireLatin1 (text : String) : Expected String :=
  match Text.unencodableRun? text.toList with
  | none => .ok text
  | some run => Json.stop (.unencodable run)

/-- Header lines as they arrive: names in lower case, and all of it in one byte per
character. -/
def HeaderLine.arrivedOfJson (value : Json) : Expected (List HeaderLine) := do
  (← HeaderLine.listOfJson value).mapM fun line => do
    return (← requireLatin1 (Text.lowerText line.1), ← requireLatin1 line.2)

namespace Request

/-- A place of a request that may be absent, empty or hold a principal. -/
def placeOfJson (value : Json) (name : String) : Expected (Option (Option Principal)) := do
  match value.member? name with
  | none => return none
  | some principal => return some (← Principal.ofJson? principal)

/-- A request; nothing stands for a request without members. -/
def ofJson (value : Json) : Expected Request := do
  return {
    path := ← value.getOr "path" "/logout" asString
    method := ← value.getOr "method" "POST" asString
    query := ← requireLatin1 (← value.getFilledOr "query" "" asString)
    headers := ← value.getFilledOr "headers" [] HeaderLine.arrivedOfJson
    client := ← value.getOr "client" (some "127.0.0.1") asText?
    session := ← value.getOr "session" none (asOptional asObject)
    user := ← placeOfJson value "user"
    userContext := ← placeOfJson value "user_context" }

end Request

/-- The status of a response that is built: it must be given, since it decides whether the length
of the body is announced. -/
def Response.statusOfJson : Json → Expected Int
  | .null => Json.stop (.notComparable "NoneType" "int")
  | value => asInt value

/-- A response: a fresh one to which header lines are added. -/
def Response.ofJson (value : Json) : Expected Response := do
  let body ← value.getFilledOr "body" "" asString
  let fresh := Response.fresh body (← value.getOr "status" 200 Response.statusOfJson)
  let lines ← value.getFilledOr "headers" [] HeaderLine.arrivedOfJson
  return lines.foldl (fun response line => response.addHeader line.1 line.2) fresh

/-- The operation that a store refuses. -/
def StoreOperation.ofJson? : Json → Expected (Option StoreOperation)
  | .null => .ok none
  | .string "delete" => .ok (some .delete)
  | .string "srem" => .ok (some .remove)
  | _ => .error "unknown operation"

/-- The texts of a list, each once. -/
def textSetOfJson (value : Json) : Expected (List String) := do
  return (← asListOf asString value).eraseDups

/-- A store: its records and its index sets. -/
def Store.ofJson (value : Json) : Expected Store := do
  let sets ← value.getFilledOr "sets" [] asObject
  return {
    keys := ← value.getFilledOr "keys" [] textSetOfJson
    sets := ← sets.mapM fun set => do return (set.1, ← textSetOfJson set.2)
    refuses := ← value.getOr "fail" none StoreOperation.ofJson? }

/-- The variables of an environment. -/
def environmentOfJson (value : Json) : Expected (Keyed String) := do
  (← asObject value).mapM fun (name, value) => do return (name, ← asString value)

namespace Calendar

/-- A moment that has the asked form. -/
def orRefused {α : Type} : Except MomentFault α → Expected α
  | .ok value => .ok value
  | .error fault => Json.stop (.refusedMoment fault)

/-- A moment given by its local date and time and its offset in minutes. -/
def Timestamp.ofJson (value : Json) : Expected Timestamp := do
  let numbers ← value.get "local" (asListOf asInt)
  orRefused (Timestamp.ofLocal numbers (← value.getFilledOr "offset" 0 asInt))

end Calendar

/-- An event; without a moment of its own it happens now. -/
def Event.ofJson (now : Int) (value : Json) : Expected Event := do
  let timestamp ←
    match (value.member? "timestamp").getD .null with
    | .null => Calendar.orRefused (Calendar.Timestamp.ofSeconds now)
    | moment => Calendar.Timestamp.ofJson moment
  return {
    principal := ← value.getOr "principal" none Principal.ofJson?
    path := ← value.get "path" asText?
    method := ← value.get "method" asText?
    clientHost := ← value.getOr "client_host" none asText?
    timestamp
    source := ← value.getOr "event_source" (some Event.defaultSource) asText?
    metadata := (value.member? "metadata").getD (.object []) }

/-- A number written as a text. -/
def Numeric.Binary64.ofJson : Json → Expected Binary64
  | .null => Json.stop (.notANumber "NoneType")
  | value => do
      let text ← asString value
      match Binary64.ofText? text.toList with
      | some x => return x
      | none => Json.stop (.unreadableNumber text)

/-- Where stored sessions are found. -/
def SessionRemoval.ofJson (value : Json) : Expected SessionRemoval := do
  let standard := SessionRemoval.standard
  return {
    keyPrefix := ← value.getOr "key_prefix" standard.keyPrefix asText?
    sessionKey := ← value.getOr "session_key" standard.sessionKey asText?
    cookieName := ← value.getOr "cookie_name" standard.cookieName asText? }

/-- An owner of request-forgery tokens. -/
def TokenRepository.ofJson (value : Json) : Expected TokenRepository := do
  return { cookie := ← value.getOr "cookie" none asText? }

/-- A publisher of events. -/
def Publisher.ofJson (value : Json) : Expected Publisher := do
  return { failure := ← value.getOr "message" none asText? }

/-- A handler that records its calls. -/
def RecordingHandler.ofJson (value : Json) : Expected RecordingHandler := do
  return {
    name := ← value.get "name" asString
    seenSessionKey := ← value.getOr "see_session" none asText?
    status := ← value.getOr "status" none (asOptional asInt)
    headers := ← value.getFilledOr "headers" [] HeaderLine.listOfJson
    body := ← value.getOr "body" none asText? }

end SignOut
