import SignOut.Json
import SignOut.Numeric.Reading

/-!
# Reading values

The grammar of the data format: blanks are space, tab and line characters; a control character
inside a string is refused; a later member of an object replaces an earlier one of the same
name.  Beyond the grammar the words `NaN`, `Infinity` and `-Infinity` are read as numbers, and
an integer of more than 4300 digits is refused.  Containers that lie too deep inside one another
are refused where the first of them starts, whatever follows.
-/

namespace SignOut.Json

open Numeric

/-- The blanks between the parts of a value. -/
def isGap (c : Char) : Bool :=
  c == ' ' || c == '\t' || c == '\n' || c == '\r'

/-- The text without the blanks at its start. -/
def skipGap (cs : List Char) : List Char :=
  cs.dropWhile isGap

/-- The value of a hexadecimal digit of either case. -/
def hexValue? (c : Char) : Option Nat :=
  if '0' ≤ c ∧ c ≤ '9' then some (c.toNat - 48)
  else if 'a' ≤ c ∧ c ≤ 'f' then some (c.toNat - 87)
  else if 'A' ≤ c ∧ c ≤ 'F' then some (c.toNat - 55)
  else none

/-- The unit that four hexadecimal digits name. -/
def hexUnit? (a b c d : Char) : Option Nat := do
  let digits := [← hexValue? a, ← hexValue? b, ← hexValue? c, ← hexValue? d]
  return digits.foldl (fun unit digit => unit * 16 + digit) 0

/-- The character that an escape of one letter stands for. -/
def letterEscape? : Char → Option Nat
  | '"' => some 0x22
  | '\\' => some 0x5C
  | '/' => some 0x2F
  | 'b' => some 0x08
  | 'f' => some 0x0C
  | 'n' => some 0x0A
  | 'r' => some 0x0D
  | 't' => some 0x09
  | _ => none

/-- The content of a string up to its closing quote, as code points and escaped units, and
what follows the quote. -/
def readUnits : List Char → Option (List Nat × List Char)
  | [] => none
  | '"' :: rest => some ([], rest)
  | '\\' :: 'u' :: a :: b :: c :: d :: rest => do
      let unit ← hexUnit? a b c d
      let (units, tail) ← readUnits rest
      return (unit :: units, tail)
  | '\\' :: letter :: rest => do
      let unit ← letterEscape? letter
      let (units, tail) ← readUnits rest
      return (unit :: units, tail)
  | c :: rest =>
      if c.toNat < 0x20 ∨ c = '\\' then none
      else do
        let (units, tail) ← readUnits rest
        return (c.toNat :: units, tail)

/-- The first half of a surrogate pair. -/
def isHighHalf (n : Nat) : Bool := 0xD800 ≤ n && n < 0xDC00

/-- The second half of a surrogate pair. -/
def isLowHalf (n : Nat) : Bool := 0xDC00 ≤ n && n < 0xE000

/-- The characters of a sequence of units; a half of a pair that stands alone has none. -/
def charsOfUnits : List Nat → Option (List Char)
  | [] => some []
  | [n] => if isHighHalf n || isLowHalf n then none else some [Char.ofNat n]
  | n :: m :: rest =>
      if isHighHalf n && isLowHalf m then
        (charsOfUnits rest).map
          (Char.ofNat (0x10000 + (n - 0xD800) * 0x400 + (m - 0xDC00)) :: ·)
      else if isHighHalf n || isLowHalf n then none
      else (charsOfUnits (m :: rest)).map (Char.ofNat n :: ·)

/-- The string that starts after an opening quote. -/
def readString (cs : List Char) : Option (Json × List Char) := do
  let (units, tail) ← readUnits cs
  match charsOfUnits units with
  | some chars => return (.string (String.ofList chars), tail)
  | none => return (.brokenString, tail)

/-- The most digits an integer may have. -/
def maxIntegerDigits : Nat := 4300

/-- A fraction: a point and at least one digit. -/
def takeFraction : List Char → List Char × List Char
  | '.' :: rest =>
      match rest.takeWhile isDigit with
      | [] => ([], '.' :: rest)
      | digits => ('.' :: digits, rest.dropWhile isDigit)
  | cs => ([], cs)

/-- An exponent: its mark, an optional sign and at least one digit. -/
def takeExponent : List Char → List Char × List Char
  | [] => ([], [])
  | mark :: rest =>
      if mark = 'e' ∨ mark = 'E' then
        let (sign, digits) :=
          match rest with
          | '+' :: more => (['+'], more)
          | '-' :: more => (['-'], more)
          | _ => ([], rest)
        match digits.takeWhile isDigit with
        | [] => ([], mark :: rest)
        | run => (mark :: sign ++ run, digits.dropWhile isDigit)
      else ([], mark :: rest)

/-- The whole part of a number: a lone zero, or digits that start with another one. -/
def takeWhole : List Char → List Char × List Char
  | '0' :: rest => (['0'], rest)
  | cs => (cs.takeWhile isDigit, cs.dropWhile isDigit)

/-- The unsigned number at the start of a text. -/
def readMagnitude (negative : Bool) (cs : List Char) : Option (Json × List Char) :=
  let (whole, afterWhole) := takeWhole cs
  let (fraction, afterFraction) := takeFraction afterWhole
  let (exponent, tail) := takeExponent afterFraction
  if whole = [] then none
  else if fraction = [] ∧ exponent = [] then
    if maxIntegerDigits < whole.length then none
    else
      let n : Int := digitsValue whole
      some (.int (if negative then -n else n), tail)
  else do
    let x ← readDecimal? negative (whole ++ fraction ++ exponent)
    return (.float x, tail)

/-- The text after a word that starts it. -/
def dropWord? (word cs : List Char) : Option (List Char) :=
  if word.isPrefixOf cs then some (cs.drop word.length) else none

/-- The value without parts at the start of a text. -/
def readScalar (cs : List Char) : Option (Json × List Char) :=
  let words : List (String × Json) :=
    [("null", .null), ("true", .bool true), ("false", .bool false), ("NaN", .float .nan),
     ("Infinity", .float (.infinite false)), ("-Infinity", .float (.infinite true))]
  let word? := words.findSome? fun (word, value) =>
    (dropWord? word.toList cs).map fun tail => (value, tail)
  match word? with
  | some result => some result
  | none =>
      match cs with
      | '-' :: rest => readMagnitude true rest
      | _ => readMagnitude false cs

/-- The name that a string gives to a member. -/
def memberName : Json → String
  | .string s => s
  | _ => replacement

/-- A value whose parts are values. -/
inductive Container where
  | array
  | object
deriving DecidableEq, Repr

/-- The name of a kind of container. -/
def Container.name : Container → String
  | array => "array"
  | object => "object"

/-- Why a text is not read: it does not follow the grammar, or a container lies too deep. -/
inductive Failure where
  | malformed
  | tooDeep (container : Container)
deriving DecidableEq, Repr

/-- A result whose absence means malformed text. -/
def orMalformed {α : Type} : Option α → Except Failure α
  | some result => .ok result
  | none => .error .malformed

/-- The most containers that may lie inside one another. -/
def maxDepth : Nat := 984

mutual

/-- The value at the start of a text and what follows it; at most `room` more containers may lie
inside one another. -/
def readValue : Nat → Nat → List Char → Except Failure (Json × List Char)
  | 0, _, _ => .error .malformed
  | fuel + 1, room, cs =>
      match cs, room with
      | '"' :: rest, _ => orMalformed (readString rest)
      | '[' :: _, 0 => .error (.tooDeep .array)
      | '[' :: rest, room + 1 =>
          match skipGap rest with
          | ']' :: tail => .ok (.array [], tail)
          | start => do
              let (items, tail) ← readItems fuel room start
              return (.array items, tail)
      | '{' :: _, 0 => .error (.tooDeep .object)
      | '{' :: rest, room + 1 =>
          match skipGap rest with
          | '}' :: tail => .ok (.object [], tail)
          | start => do
              let (members, tail) ← readMembers fuel room start
              return (.object (Keyed.ofEntries members), tail)
      | _, _ => orMalformed (readScalar cs)

/-- The items of a list up to its closing bracket. -/
def readItems : Nat → Nat → List Char → Except Failure (List Json × List Char)
  | 0, _, _ => .error .malformed
  | fuel + 1, room, cs => do
      let (item, rest) ← readValue fuel room cs
      match skipGap rest with
      | ',' :: more =>
          let (items, tail) ← readItems fuel room (skipGap more)
          return (item :: items, tail)
      | ']' :: tail => return ([item], tail)
      | _ => .error .malformed

/-- The members of an object up to its closing brace, in order and with repetitions. -/
def readMembers : Nat → Nat → List Char →
    Except Failure (List (String × Json) × List Char)
  | 0, _, _ => .error .malformed
  | fuel + 1, room, cs =>
      match cs with
      | '"' :: quoted => do
          let (name, afterName) ← orMalformed (readString quoted)
          match skipGap afterName with
          | ':' :: afterColon =>
              let (value, rest) ← readValue fuel room (skipGap afterColon)
              match skipGap rest with
              | ',' :: more =>
                  let (members, tail) ← readMembers fuel room (skipGap more)
                  return ((memberName name, value) :: members, tail)
              | '}' :: tail => return ([(memberName name, value)], tail)
              | _ => .error .malformed
          | _ => .error .malformed
      | _ => .error .malformed

end

/-- The value that a text consists of.  Each nesting of the reader's calls uses up a
character at every second step, so twice the length bounds their depth. -/
def parse (cs : List Char) : Except Failure Json := do
  let (value, tail) ← readValue (2 * cs.length + 2) maxDepth (skipGap cs)
  if skipGap tail = [] then return value else .error .malformed

end SignOut.Json
