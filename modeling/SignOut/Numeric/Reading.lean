import SignOut.Numeric.Binary64
import SignOut.Text.Blank
import SignOut.Text.Case
import SignOut.Text.DecimalDigit

/-!
# Reading numbers from text

A number is an optional sign and either a decimal with optional fraction and exponent or one
of the words `inf`, `infinity` and `nan` in any case.  Single underscores may stand between
digits.  Spaces and line characters around the number are dropped.  In a text with characters
beyond the basic ones, blanks count as spaces and the decimal digits of every script as
digits; hexadecimal forms are no numbers.
-/

namespace SignOut.Numeric

/-- The blanks that may surround a number. -/
def isSpacing (c : Char) : Bool :=
  c == ' ' || ('\t' ≤ c && c ≤ '\r')

/-- A digit of the basic script. -/
def isDigit (c : Char) : Bool :=
  '0' ≤ c && c ≤ '9'

/-- A character of a number's text in basic characters; one that has no such form becomes a
character that no number holds. -/
def basicForm (c : Char) : Char :=
  if c.toNat < 0x7F then c
  else if Text.isBlank c then ' '
  else
    match Text.decimalDigit? c with
    | some d => Char.ofNat (48 + d)
    | none => '?'

/-- Drop the underscores of a text if each stands between two digits; `before` says whether a
digit stands before the text. -/
def dropUnderscores : Bool → List Char → Option (List Char)
  | _, [] => some []
  | before, c :: rest =>
      if c = '_' then
        match rest with
        | [] => none
        | d :: _ => if before && isDigit d then dropUnderscores false rest else none
      else (dropUnderscores (isDigit c) rest).map (c :: ·)

/-- The value of a run of basic digits. -/
def digitsValue (cs : List Char) : Nat :=
  cs.foldl (fun n c => 10 * n + (c.toNat - 48)) 0

/-- An optional sign and what follows it. -/
def readSign : List Char → Bool × List Char
  | '-' :: rest => (true, rest)
  | '+' :: rest => (false, rest)
  | cs => (false, cs)

/-- The exponent that a text consists of, zero for the empty text. -/
def readExponent? : List Char → Option Int
  | [] => some 0
  | mark :: rest =>
      if mark = 'e' ∨ mark = 'E' then
        let (negative, digits) := readSign rest
        if digits ≠ [] ∧ digits.all isDigit then
          let n : Int := digitsValue digits
          some (if negative then -n else n)
        else none
      else none

/-- The decimal that an unsigned text consists of. -/
def readDecimal? (negative : Bool) (cs : List Char) : Option Binary64 := do
  let whole := cs.takeWhile isDigit
  let rest := cs.dropWhile isDigit
  let (fraction, tail) :=
    match rest with
    | '.' :: more => (more.takeWhile isDigit, more.dropWhile isDigit)
    | _ => ([], rest)
  if whole = [] ∧ fraction = [] then none
  else
    let exponent ← readExponent? tail
    return .ofDecimal negative (digitsValue (whole ++ fraction)) (exponent - fraction.length)

/-- The lower-case form of a basic letter. -/
def lowerBasic (c : Char) : Char :=
  if 'A' ≤ c ∧ c ≤ 'Z' then Char.ofNat (c.toNat + 32) else c

/-- The number that a text denotes, if it denotes one. -/
def Binary64.ofText? (cs : List Char) : Option Binary64 := do
  let basic := if cs.all (fun c => c.toNat < 0x80) then cs else cs.map basicForm
  let plain ← dropUnderscores false (Text.trimBy isSpacing basic)
  let (negative, body) := readSign plain
  let word := body.map lowerBasic
  if word = ['i', 'n', 'f'] ∨ word = ['i', 'n', 'f', 'i', 'n', 'i', 't', 'y'] then
    return .infinite negative
  else if word = ['n', 'a', 'n'] then return .nan
  else readDecimal? negative body

end SignOut.Numeric
