import SignOut.Json

/-!
# Problems of settings

A value that does not fit its setting is a problem at a place.  Values are read generously: a
switch may be written as a word or as the number zero or one.  Problems are collected, so that
all of them are reported together.
-/

namespace SignOut.Settings

/-- What is wrong with a value. -/
inductive ProblemKind where
  | notText
  | brokenText
  | relativePath
  | notASwitch
  | unknownSwitch
  | notAList
deriving DecidableEq, Repr

/-- The code of a kind of problem. -/
def ProblemKind.code : ProblemKind → String
  | notText => "string_type"
  | brokenText => "string_unicode"
  | relativePath => "value_error"
  | notASwitch => "bool_type"
  | unknownSwitch => "bool_parsing"
  | notAList => "list_type"

/-- The words for a kind of problem. -/
def ProblemKind.message : ProblemKind → String
  | notText => "Input should be a valid string"
  | brokenText => "Input should be a valid string, unable to parse raw data as a unicode string"
  | relativePath => "Value error, Paths must start with '/'"
  | notASwitch => "Input should be a valid boolean"
  | unknownSwitch => "Input should be a valid boolean, unable to interpret input"
  | notAList => "Input should be a valid list"

/-- A problem at a place: the name of a setting, and the position in its list. -/
structure Problem where
  place : List String
  kind : ProblemKind
deriving DecidableEq, Repr

/-- A problem as a value of the data format. -/
def Problem.describe (p : Problem) : Json :=
  .object
    [("loc", Json.ofTexts p.place), ("type", .string p.kind.code),
     ("msg", .string p.kind.message)]

/-- A value that was read, or all problems that were met. -/
abbrev Checked (α : Type) := Except (List Problem) α

namespace Checked

variable {α β : Type}

/-- A single problem. -/
def problem (place : List String) (kind : ProblemKind) : Checked α :=
  .error [{ place, kind }]

/-- Give one more argument; the problems of both sides are kept in order. -/
def give (f : Checked (α → β)) (x : Checked α) : Checked β :=
  match f, x with
  | .ok f, .ok x => .ok (f x)
  | .ok _, .error later => .error later
  | .error earlier, .ok _ => .error earlier
  | .error earlier, .error later => .error (earlier ++ later)

/-- A text; half of a surrogate pair does not keep a string from being one. -/
def text (place : List String) : Json → Checked String
  | .string s => .ok s
  | .brokenString => .ok Json.replacement
  | _ => problem place .notText

/-- A path: a text that starts with a slash. -/
def path (place : List String) (value : Json) : Checked String :=
  match text place value with
  | .ok s => if s.toList.head? = some '/' then .ok s else problem place .relativePath
  | .error problems => .error problems

/-- The words for a switch that is on. -/
def onWords : List String := ["1", "t", "y", "on", "yes", "true"]

/-- The words for a switch that is off. -/
def offWords : List String := ["0", "f", "n", "off", "no", "false"]

/-- A switch written as a word, in any case of the letters of ASCII. -/
def switchWord (place : List String) (word : String) : Checked Bool :=
  let word := word.toLower
  if word ∈ onWords then .ok true
  else if word ∈ offWords then .ok false
  else problem place .unknownSwitch

/-- A switch written as a number: one or zero. -/
def switchNumber (place : List String) (n : Int) : Checked Bool :=
  if n = 1 then .ok true
  else if n = 0 then .ok false
  else problem place .unknownSwitch

/-- The numbers that a switch may be written as and that are told apart from other values: those
of 64 bits. -/
def isWord (n : Int) : Bool :=
  -(Nat.pow 2 63 : Int) ≤ n && n < (Nat.pow 2 63 : Int)

/-- A switch. -/
def switch (place : List String) : Json → Checked Bool
  | .bool b => .ok b
  | .string s => switchWord place s
  | .brokenString => problem place .brokenText
  | .int n => if isWord n then switchNumber place n else problem place .notASwitch
  | .float x =>
      match x.toInt? with
      | some n =>
          if isWord n && n != -(Nat.pow 2 63 : Int) then switchNumber place n
          else problem place .notASwitch
      | none => problem place .notASwitch
  | _ => problem place .notASwitch

/-- The texts of a list, whose first item has a given position. -/
def textItems (place : List String) (position : Nat) : List Json → Checked (List String)
  | [] => .ok []
  | item :: rest =>
      give ((text (place ++ [toString position]) item).map List.cons)
        (textItems place (position + 1) rest)

/-- A list of texts. -/
def texts (place : List String) : Json → Checked (List String)
  | .array items => textItems place 0 items
  | _ => problem place .notAList

end Checked

end SignOut.Settings
