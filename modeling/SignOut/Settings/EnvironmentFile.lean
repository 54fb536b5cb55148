import SignOut.Keyed
import SignOut.Text.Blank

/-!
# Environment files

A file of assignments `NAME=value`, one after another.  Names and values may be quoted, a quoted
value may run over several lines, and comments start with a hash mark.  A line that is no
assignment is skipped.  Values may refer to variables as `$` with a name in braces, optionally
with `:-` and a default.
-/

namespace SignOut.EnvironmentFile

open Text

/-- An assignment; without an equals sign the name has no value. -/
structure Assignment where
  name : String
  value : Option String
deriving DecidableEq, Repr

/-- What was read and the text that follows, or the text at which reading stopped. -/
abbrev Attempt (α : Type) := Except (List Char) (α × List Char)

/-- The text with every line end written as a single character. -/
def plainLines : List Char → List Char
  | [] => []
  | '\r' :: '\n' :: rest => '\n' :: plainLines rest
  | '\r' :: rest => '\n' :: plainLines rest
  | c :: rest => c :: plainLines rest

/-- A blank that does not end the line. -/
def isInnerBlank (c : Char) : Bool :=
  isBlank c && c != '\n'

/-- The text without the blanks at its start, up to the end of the line. -/
def skipInner (cs : List Char) : List Char :=
  cs.dropWhile isInnerBlank

/-- The text after the end of the line. -/
def skipLine (cs : List Char) : List Char :=
  (cs.dropWhile (· ≠ '\n')).drop 1

/-- The word that may stand before a name. -/
def exportWord : List Char := ['e', 'x', 'p', 'o', 'r', 't']

/-- The text without the word that may stand before a name; a blank must follow the word. -/
def skipExport (cs : List Char) : List Char :=
  let after := cs.drop exportWord.length
  if exportWord.isPrefixOf cs && (after.head?.map isInnerBlank).getD false then skipInner after
  else cs

/-- A character of a name that is not quoted. -/
def isNameChar (c : Char) : Bool :=
  !(c == '=' || c == '#' || isBlank c)

/-- The name at the start of a text; a comment has none. -/
def readName : List Char → Attempt (Option String)
  | '#' :: rest => .ok (none, '#' :: rest)
  | '\'' :: rest =>
      let name := rest.takeWhile (· ≠ '\'')
      match name, rest.dropWhile (· ≠ '\'') with
      | _ :: _, _ :: after => .ok (some (String.ofList name), after)
      | _, _ => .error ('\'' :: rest)
  | cs =>
      let name := cs.takeWhile isNameChar
      if name.isEmpty then .error cs
      else .ok (some (String.ofList name), cs.dropWhile isNameChar)

/-- The content up to the closing quote and the text after it.  A backslash keeps the character
after it from closing the quotes; content without a closing quote is none. -/
def closeQuote? (quote : Char) : List Char → Option (List Char × List Char)
  | [] => none
  | [c] => if c = quote then some ([], []) else none
  | c :: d :: rest =>
      if c = quote then some ([], d :: rest)
      else if c = '\\' then
        (closeQuote? quote rest).map fun (content, after) => (c :: d :: content, after)
      else (closeQuote? quote (d :: rest)).map fun (content, after) => (c :: content, after)

/-- The escapes of single quotes. -/
def singleEscape? (c : Char) : Option Char :=
  if c = '\\' ∨ c = '\'' then some c else none

/-- The escapes of double quotes. -/
def doubleEscape? : Char → Option Char
  | '\\' => some '\\'
  | '\'' => some '\''
  | '"' => some '"'
  | 'a' => some '\x07'
  | 'b' => some '\x08'
  | 'f' => some '\x0c'
  | 'n' => some '\n'
  | 'r' => some '\r'
  | 't' => some '\t'
  | 'v' => some '\x0b'
  | _ => none

/-- The text with its escapes replaced; any other backslash stays. -/
def unescape (escape? : Char → Option Char) : List Char → List Char
  | [] => []
  | [c] => [c]
  | c :: d :: rest =>
      if c = '\\' then
        match escape? d with
        | some e => e :: unescape escape? rest
        | none => c :: unescape escape? (d :: rest)
      else c :: unescape escape? (d :: rest)

/-- The part of a value before a comment: a comment starts with a hash mark after a blank. -/
def beforeComment : List Char → List Char
  | [] => []
  | c :: rest =>
      if isBlank c && (rest.dropWhile isBlank).head? == some '#' then []
      else c :: beforeComment rest

/-- The value in quotes at the start of a text. -/
def readQuoted (quote : Char) (escape? : Char → Option Char) (cs : List Char) : Attempt String :=
  match closeQuote? quote cs with
  | some (content, after) => .ok (String.ofList (unescape escape? content), after)
  | none => .error (quote :: cs)

/-- The value that fills the line up to a comment, without the blanks around it. -/
def readPlain (cs : List Char) : Attempt String :=
  let line := cs.takeWhile (· ≠ '\n')
  .ok (String.ofList (strip (beforeComment line)), cs.dropWhile (· ≠ '\n'))

/-- The value that follows an equals sign. -/
def readValue (cs : List Char) : Attempt String :=
  match skipInner cs with
  | '\'' :: rest => readQuoted '\'' singleEscape? rest
  | '"' :: rest => readQuoted '"' doubleEscape? rest
  | _ => readPlain cs

/-- The text without the comment at its start, if there is one. -/
def skipComment (cs : List Char) : List Char :=
  match skipInner cs with
  | '#' :: rest => rest.dropWhile (· ≠ '\n')
  | _ => cs

/-- The text after the end of the line; only a comment may stand before the end. -/
def finishLine (cs : List Char) : Except (List Char) (List Char) :=
  let cs := skipComment cs
  match skipInner cs with
  | [] => .ok []
  | '\n' :: rest => .ok rest
  | _ => .error cs

/-- The value after a name, if an equals sign stands there. -/
def readAssigned (cs : List Char) : Attempt (Option String) :=
  match skipInner cs with
  | '=' :: rest => (readValue rest).map fun (value, after) => (some value, after)
  | after => .ok (none, after)

/-- The assignment at the start of a text that starts with no blank; a comment is none. -/
def readAssignment (cs : List Char) :
    Except (List Char) (Option Assignment × List Char) := do
  let (name, after) ← readName (skipExport cs)
  let (value, after) ← readAssigned after
  let rest ← finishLine after
  return (name.map fun name => { name, value }, rest)

/-- The assignments of a text, in at most a given number of steps. -/
def readAll : Nat → List Char → List Assignment
  | 0, _ => []
  | steps + 1, cs =>
      match cs.dropWhile isBlank with
      | [] => []
      | cs =>
          match readAssignment cs with
          | .ok (some assignment, rest) => assignment :: readAll steps rest
          | .ok (none, rest) => readAll steps rest
          | .error stop => readAll steps (skipLine stop)

/-- The text without the mark that may stand at the very start of a file. -/
def skipMark : List Char → List Char
  | '\uFEFF' :: rest => rest
  | cs => cs

/-- The assignments of a file in order.  Every step reads at least one character. -/
def assignments (text : String) : List Assignment :=
  let cs := plainLines (skipMark text.toList)
  readAll cs.length cs

/-- A reference to a variable, with the text that stands for it where it has no value. -/
structure Reference where
  name : String
  otherwise : String
deriving DecidableEq, Repr

/-- A character of the name inside a reference. -/
def isReferenceChar (c : Char) : Bool :=
  !(c == '\x7d' || c == ':')

/-- The reference whose inside starts a text, and the text after its closing brace. -/
def reference? (cs : List Char) : Option (Reference × List Char) :=
  let name := String.ofList (cs.takeWhile isReferenceChar)
  match cs.dropWhile isReferenceChar with
  | '\x7d' :: after => some ({ name, otherwise := "" }, after)
  | ':' :: '-' :: rest =>
      match rest.dropWhile (· ≠ '\x7d') with
      | _ :: after =>
          let otherwise := String.ofList (rest.takeWhile (· ≠ '\x7d'))
          some ({ name, otherwise }, after)
      | [] => none
  | _ => none

theorem length_dropWhile_le (p : Char → Bool) (cs : List Char) :
    (cs.dropWhile p).length ≤ cs.length :=
  (List.dropWhile_sublist p).length_le

/-- What follows a reference is no longer than the text in which it was found. -/
theorem reference?_length {cs after : List Char} {r : Reference}
    (h : reference? cs = some (r, after)) : after.length ≤ cs.length := by
  have houter := length_dropWhile_le isReferenceChar cs
  unfold reference? at h
  split at h
  · rename_i tail hdrop
    simp only [Option.some.injEq, Prod.mk.injEq] at h
    obtain ⟨-, rfl⟩ := h
    rw [hdrop] at houter
    simp only [List.length_cons] at houter
    omega
  · rename_i rest hdrop
    have hinner := length_dropWhile_le (· ≠ '\x7d') rest
    rw [hdrop] at houter
    simp only [List.length_cons] at houter
    split at h
    · rename_i tail htail
      simp only [Option.some.injEq, Prod.mk.injEq] at h
      obtain ⟨-, rfl⟩ := h
      rw [htail] at hinner
      simp only [List.length_cons] at hinner
      omega
    · simp at h
  · simp at h

/-- The text with its references replaced. -/
def expand (value : Reference → String) : List Char → List Char
  | [] => []
  | '$' :: '\x7b' :: rest =>
      match h : reference? rest with
      | some (reference, after) =>
          have : after.length ≤ rest.length := reference?_length h
          (value reference).toList ++ expand value after
      | none => '$' :: expand value ('\x7b' :: rest)
  | c :: rest => c :: expand value rest
termination_by cs => cs.length

/-- What a reference stands for: a variable assigned earlier in the file, or one of the
environment. -/
def lookUp (environment : Keyed String) (earlier : Keyed (Option String)) (r : Reference) :
    String :=
  match Keyed.get? r.name earlier with
  | some value => value.getD ""
  | none => (Keyed.get? r.name environment).getD r.otherwise

/-- The variables after one more assignment. -/
def assign (environment : Keyed String) (earlier : Keyed (Option String)) (a : Assignment) :
    Keyed (Option String) :=
  let value := a.value.map fun text =>
    String.ofList (expand (lookUp environment earlier) text.toList)
  Keyed.put a.name value earlier

/-- The variables that a file assigns, with their values. -/
def values (environment : Keyed String) (text : String) : Keyed (Option String) :=
  (assignments text).foldl (assign environment) []

end SignOut.EnvironmentFile
