import SignOut.Json

/-!
# Writing values

The text of a value on a single line, in basic characters alone.  Quotes and backslashes inside
a string are escaped by a backslash; control characters and all characters beyond the basic ones
are written by their units of 16 bits.
-/

namespace SignOut.Json

/-- The units of 16 bits of a code point: itself, or the two halves of a surrogate pair. -/
def units16 (n : Nat) : List Nat :=
  if n < 0x10000 then [n]
  else [0xD800 + (n - 0x10000) / 0x400, 0xDC00 + (n - 0x10000) % 0x400]

/-- The escape of a unit. -/
def unitEscape (unit : Nat) : List Char :=
  '\\' :: 'u' :: Text.hexDigits 4 unit

/-- A character as it stands inside a string. -/
def writtenChar (c : Char) : List Char :=
  if c = '"' ∨ c = '\\' then ['\\', c]
  else if 0x20 ≤ c.toNat ∧ c.toNat < 0x7F then [c]
  else (units16 c.toNat).flatMap unitEscape

/-- A string between quotes. -/
def writtenString (s : String) : String :=
  "\"" ++ String.ofList (s.toList.flatMap writtenChar) ++ "\""

/-- A floating-point number; the values that are no numbers are written as words. -/
def writtenFloat : Numeric.Binary64 → String
  | .nan => "NaN"
  | .infinite negative => if negative then "-Infinity" else "Infinity"
  | x => x.shortestText

mutual

/-- The text of a value. -/
def write : Json → String
  | .null => "null"
  | .bool b => if b then "true" else "false"
  | .int n => toString n
  | .float x => writtenFloat x
  | .string s => writtenString s
  | .brokenString => writtenString replacement
  | .array items => "[" ++ ", ".intercalate (writeItems items) ++ "]"
  | .object members => "\x7b" ++ ", ".intercalate (writeMembers members) ++ "\x7d"

/-- The texts of the items of a list. -/
def writeItems : List Json → List String
  | [] => []
  | item :: rest => write item :: writeItems rest

/-- The texts of the members of an object. -/
def writeMembers : List (String × Json) → List String
  | [] => []
  | (name, value) :: rest => (writtenString name ++ ": " ++ write value) :: writeMembers rest

end

end SignOut.Json
