import SignOut.Text.Printable

/-!
# Quoted texts

A text inside a message stands between single quotes, or between double quotes when it holds a
single quote and no double one.  The quote itself, the backslash and the line characters are
escaped by a backslash; other characters that are not printable are written by their code
point in two, four or eight hexadecimal digits.
-/

namespace SignOut.Text

/-- A lower-case hexadecimal digit. -/
def hexDigit (n : Nat) : Char :=
  if n < 10 then Char.ofNat (48 + n) else Char.ofNat (87 + n)

/-- The last `width` hexadecimal digits of a number. -/
def hexDigits : Nat → Nat → List Char
  | 0, _ => []
  | width + 1, n => hexDigits width (n / 16) ++ [hexDigit (n % 16)]

/-- The escape that names a character by its code point. -/
def codePointEscape (c : Char) : List Char :=
  let n := c.toNat
  if n < 0x100 then '\\' :: 'x' :: hexDigits 2 n
  else if n < 0x10000 then '\\' :: 'u' :: hexDigits 4 n
  else '\\' :: 'U' :: hexDigits 8 n

/-- A character as it stands between the given quotes. -/
def quotedChar (mark c : Char) : List Char :=
  if c = mark || c = '\\' then ['\\', c]
  else if c = '\t' then ['\\', 't']
  else if c = '\n' then ['\\', 'n']
  else if c = '\r' then ['\\', 'r']
  else if isPrintable c then [c]
  else codePointEscape c

/-- The quotes that a text is put between. -/
def quoteMark (cs : List Char) : Char :=
  if '\'' ∈ cs && !('"' ∈ cs) then '"' else '\''

/-- A text between quotes. -/
def quoted (cs : List Char) : List Char :=
  let mark := quoteMark cs
  mark :: cs.flatMap (quotedChar mark) ++ [mark]

/-- A string between quotes. -/
def quote (s : String) : String :=
  String.ofList (quoted s.toList)

/-- A list of strings, each between quotes. -/
def quoteList (items : List String) : String :=
  "[" ++ ", ".intercalate (items.map quote) ++ "]"

end SignOut.Text
