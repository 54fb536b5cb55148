import SignOut.Keyed
import SignOut.Numeric.Shortest

/-!
# Values of the data format

Session entries, user ids, metadata and settings are values of the JSON data model.  Integers
are exact and apart from floating-point numbers.  A string whose escapes leave half of a
surrogate pair alone is kept as a value of its own: its text cannot be written, but it still
counts as a string.
-/

namespace SignOut

open Numeric

/-- A value of the data format. -/
inductive Json where
  | null
  | bool (b : Bool)
  | int (n : Int)
  | float (x : Binary64)
  | string (s : String)
  | brokenString
  | array (items : List Json)
  | object (members : List (String × Json))

namespace Json

instance : Inhabited Json := ⟨.null⟩

/-- What is shown of a string whose text cannot be written. -/
def replacement : String := "\uFFFD"

/-- The value counts as given: nothing, false, zero and the empty text or collection do not. -/
def isTruthy : Json → Bool
  | .null => false
  | .bool b => b
  | .int n => n != 0
  | .float x => !x.isZero
  | .string s => s != ""
  | .brokenString => true
  | .array items => !items.isEmpty
  | .object members => !members.isEmpty

mutual

/-- The text of a value inside another one: texts are quoted there. -/
def innerText : Json → String
  | .null => "None"
  | .bool b => if b then "True" else "False"
  | .int n => toString n
  | .float x => x.shortestText
  | .string s => Text.quote s
  | .brokenString => Text.quote replacement
  | .array items => "[" ++ ", ".intercalate (innerTexts items) ++ "]"
  | .object members => "\x7b" ++ ", ".intercalate (memberTexts members) ++ "\x7d"

/-- The texts of the items of a list. -/
def innerTexts : List Json → List String
  | [] => []
  | item :: rest => innerText item :: innerTexts rest

/-- The texts of the members of an object. -/
def memberTexts : List (String × Json) → List String
  | [] => []
  | (name, value) :: rest => (Text.quote name ++ ": " ++ innerText value) :: memberTexts rest

end

/-- The text of a value on its own: a text stands for itself. -/
def plainText : Json → String
  | .string s => s
  | .brokenString => replacement
  | value => value.innerText

/-- A value that counts as given has a text. -/
theorem plainText_ne_empty {value : Json} (h : value.isTruthy = true) : value.plainText ≠ "" := by
  cases value with
  | null => cases h
  | bool b =>
      cases h
      decide
  | int n =>
      cases n with
      | ofNat n =>
          show toString n ≠ ""
          rw [Nat.toString_eq_ofList_toDigits]
          simp
      | negSucc n =>
          show "-" ++ toString (n + 1) ≠ ""
          simp
  | float x => exact x.shortestText_ne_empty
  | string s => simpa [isTruthy, plainText] using h
  | brokenString => decide
  | array items => simp [plainText, innerText]
  | object members => simp [plainText, innerText]

/-- A text or nothing, as a value. -/
def ofText? : Option String → Json
  | none => .null
  | some s => .string s

/-- An integer or nothing, as a value. -/
def ofInt? : Option Int → Json
  | none => .null
  | some n => .int n

/-- A list of texts, as a value. -/
def ofTexts (texts : List String) : Json :=
  .array (texts.map .string)

/-- The member of an object under a name; other values have no members. -/
def member? (name : String) : Json → Option Json
  | .object members => Keyed.get? name members
  | _ => none

end Json

end SignOut
