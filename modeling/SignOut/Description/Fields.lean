import SignOut.Error
import SignOut.Switch

/-!
# Reading typed values

A value is read as the kind that is expected of it; otherwise the reading says what was
expected, or what kept the thing that the value describes from being built.  Members of objects
are read in the same way, whether they must be present or have a default.
-/

namespace SignOut

/-- A switch: a truth value, or nothing where it is blank. -/
def Switch.describe : Switch → Json
  | .on => .bool true
  | .off => .bool false
  | .blank => .null

namespace Json

/-- Why a value was not read: it is not of the expected kind, or what it describes cannot be
built. -/
inductive Unread where
  | unexpected (message : String)
  | unbuilt (obstacle : Obstacle)
deriving Inhabited

instance : Coe String Unread := ⟨Unread.unexpected⟩

/-- What was read, or why it was not. -/
abbrev Expected (α : Type) := Except Unread α

/-- A string. -/
def asString : Json → Expected String
  | .string s => .ok s
  | _ => .error "string expected"

/-- A string or nothing. -/
def asText? : Json → Expected (Option String)
  | .null => .ok none
  | .string s => .ok (some s)
  | _ => .error "string or null expected"

/-- A truth value. -/
def asBool : Json → Expected Bool
  | .bool b => .ok b
  | _ => .error "boolean expected"

/-- A switch: a truth value, or nothing for a blank switch. -/
def asSwitch : Json → Expected Switch
  | .null => .ok .blank
  | value => do return .ofBool (← asBool value)

/-- An integer. -/
def asInt : Json → Expected Int
  | .int n => .ok n
  | _ => .error "integer expected"

/-- The items of a list. -/
def asArray : Json → Expected (List Json)
  | .array items => .ok items
  | _ => .error "array expected"

/-- The members of an object. -/
def asObject : Json → Expected (List (String × Json))
  | .object members => .ok members
  | _ => .error "object expected"

variable {α : Type}

/-- The items of a list, each read in the same way. -/
def asListOf (read : Json → Expected α) (value : Json) : Expected (List α) := do
  (← value.asArray).mapM read

/-- A value that may be nothing. -/
def asOptional (read : Json → Expected α) : Json → Expected (Option α)
  | .null => .ok none
  | value => (read value).map some

/-- A member that may be absent. -/
def getOr (value : Json) (name : String) (default : α) (read : Json → Expected α) :
    Expected α :=
  match value.member? name with
  | none => .ok default
  | some member => read member

/-- A member that must be present. -/
def get (value : Json) (name : String) (read : Json → Expected α) : Expected α :=
  match value.member? name with
  | none => .error ("missing " ++ name)
  | some member => read member

/-- A member that may be absent or nothing, both of which stand for the default. -/
def getFilledOr (value : Json) (name : String) (default : α) (read : Json → Expected α) :
    Expected α :=
  match value.member? name with
  | none => .ok default
  | some .null => .ok default
  | some member => read member

/-- A value whose argument may be refused. -/
def orRefused : Except InvalidArgument α → Expected α
  | .ok value => .ok value
  | .error e => .error (.unbuilt (.refused e))

/-- Stop at a fault. -/
def stop (fault : Fault) : Expected α :=
  .error (.unbuilt (.fault fault))

/-- A text of which an operation is asked; nothing has no such operation. -/
def asTextWith (operation : String) : Json → Expected String
  | .null => stop (.lacks "NoneType" operation)
  | value => asString value

/-- The items of a list, each read in the same way; nothing has no items to go through. -/
def asItems (read : Json → Expected α) : Json → Expected (List α)
  | .null => stop (.notIterable "NoneType")
  | value => asListOf read value

end Json

end SignOut
