import SignOut.Calendar
import SignOut.Text.Latin1
import SignOut.Text.Utf8

/-!
# Faults while a request is served

Everything that can stop a chain of actions: a collaborator's own error, a cookie name or
header value that cannot be sent, a target that cannot be read, a moment without a date,
and a value in the place of a collaborator or an argument that lacks what is asked of it.
-/

namespace SignOut

/-- A value in the place of a collaborator that is none. -/
inductive Foreign where
  | nothing
  | text (s : String)
  | object
deriving DecidableEq, Repr

/-- The name of the type of a foreign value. -/
def Foreign.typeName : Foreign → String
  | .nothing => "NoneType"
  | .text _ => "str"
  | .object => "object"

/-- Whether a foreign value counts as true where a truth value is asked of it. -/
def Foreign.isTrue : Foreign → Bool
  | .nothing => false
  | .text s => s ≠ ""
  | .object => true

/-- What stopped a run. -/
inductive Fault where
  | raised (message : String)
  | reservedCookie (name : String)
  | illegalCookie (name : String)
  | unencodable (run : Text.UnencodableRun)
  | undecodable (run : Text.UndecodableRun)
  | refusedMoment (fault : Calendar.MomentFault)
  | lacks (typeName operation : String)
  | notAwaitable
  | notIterable (typeName : String)
  | notComparable (left right : String)
  | notANumber (typeName : String)
  | unreadableNumber (text : String)
deriving DecidableEq, Repr

/-- The words for a fault. -/
def Fault.message : Fault → String
  | .raised message => message
  | .reservedCookie name => "Attempt to set a reserved key " ++ Text.quote name
  | .illegalCookie name => "Illegal key " ++ Text.quote name
  | .unencodable run => run.message
  | .undecodable run => run.message
  | .refusedMoment fault => fault.message
  | .lacks typeName operation => s!"'{typeName}' object has no attribute '{operation}'"
  | .notAwaitable => "object NoneType can't be used in 'await' expression"
  | .notIterable typeName => s!"'{typeName}' object is not iterable"
  | .notComparable left right =>
      s!"'<' not supported between instances of '{left}' and '{right}'"
  | .notANumber typeName =>
      s!"float() argument must be a string or a real number, not '{typeName}'"
  | .unreadableNumber text => "could not convert string to float: " ++ Text.quote text

end SignOut
