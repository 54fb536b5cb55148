/-!
# Switches

A switch is on or off, or it was left blank.  A blank switch counts as off, but it is shown as
it is, so the three values stay apart.
-/

namespace SignOut

/-- The position of a switch. -/
inductive Switch where
  | on
  | off
  | blank
deriving DecidableEq, Repr

namespace Switch

/-- The switch in the position of a truth value. -/
def ofBool : Bool → Switch
  | true => .on
  | false => .off

/-- Whether a switch counts as on. -/
def isOn : Switch → Bool
  | .on => true
  | _ => false

/-- A switch as it is written in the text of what it belongs to. -/
def word : Switch → String
  | .on => "True"
  | .off => "False"
  | .blank => "None"

/-- A truth value decides what its switch counts as. -/
@[simp] theorem isOn_ofBool (b : Bool) : (ofBool b).isOn = b := by
  cases b <;> rfl

end Switch

end SignOut
