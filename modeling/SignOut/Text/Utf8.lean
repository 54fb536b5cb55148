import SignOut.Text.Quoted

/-!
# Bytes that are no text

In UTF-8 the first byte of a character says how many bytes follow it and in which ranges they
lie.  Bytes that break the rule cannot be decoded; the error names the bytes of the first
character that breaks it, as far as they fit, and why it breaks it.  Main statements: the bytes
of ASCII are always text, and the bytes that an error names lie inside the text.
-/

namespace SignOut.Text

/-- The bytes between two bounds. -/
structure ByteRange where
  low : Nat
  high : Nat
deriving DecidableEq, Repr

/-- A byte lies between the bounds. -/
def ByteRange.contains (range : ByteRange) (byte : Nat) : Bool :=
  range.low ≤ byte && byte ≤ range.high

/-- The bytes that may follow another one inside a character. -/
def followingBytes : ByteRange := ⟨0x80, 0xBF⟩

/-- The ranges of the bytes that follow the first byte of a character; the bounds of the second
byte exclude the longer forms of short characters, the surrogates and what lies beyond the last
code point.  No character starts with any other byte. -/
def followers? (first : Nat) : Option (List ByteRange) :=
  if first < 0x80 then some []
  else if first < 0xC2 then none
  else if first < 0xE0 then some [followingBytes]
  else if first = 0xE0 then some [⟨0xA0, 0xBF⟩, followingBytes]
  else if first = 0xED then some [⟨0x80, 0x9F⟩, followingBytes]
  else if first < 0xF0 then some [followingBytes, followingBytes]
  else if first = 0xF0 then some [⟨0x90, 0xBF⟩, followingBytes, followingBytes]
  else if first < 0xF4 then some [followingBytes, followingBytes, followingBytes]
  else if first = 0xF4 then some [⟨0x80, 0x8F⟩, followingBytes, followingBytes]
  else none

/-- How many bytes at the start of a text lie in ranges, one after another. -/
def countFitting : List ByteRange → List Nat → Nat
  | range :: ranges, byte :: bytes =>
      if range.contains byte then countFitting ranges bytes + 1 else 0
  | _, _ => 0

/-- Why bytes are no character. -/
inductive DecodingFault where
  | start
  | continuation
  | ending
deriving DecidableEq, Repr

/-- The words for a fault. -/
def DecodingFault.message : DecodingFault → String
  | start => "invalid start byte"
  | continuation => "invalid continuation byte"
  | ending => "unexpected end of data"

/-- The first bytes of a text that are no character. -/
structure UndecodableRun where
  start : Nat
  first : Nat
  length : Nat
  fault : DecodingFault
deriving DecidableEq, Repr

/-- The first bytes that are no character, if there are any; `position` counts the bytes before
the text. -/
def undecodableFrom? (position : Nat) : List Nat → Option UndecodableRun
  | [] => none
  | first :: rest =>
      match followers? first with
      | none => some { start := position, first, length := 1, fault := .start }
      | some ranges =>
          let fitting := countFitting ranges rest
          if fitting = ranges.length then
            undecodableFrom? (position + 1 + fitting) (rest.drop fitting)
          else
            let fault := if fitting = rest.length then .ending else .continuation
            some { start := position, first, length := 1 + fitting, fault }
termination_by bytes => bytes.length
decreasing_by
  rw [List.length_drop, List.length_cons]
  omega

/-- The first bytes of a text that are no character, if there are any. -/
def undecodableRun? (bytes : List Nat) : Option UndecodableRun :=
  undecodableFrom? 0 bytes

/-- The words for bytes that cannot be decoded. -/
def UndecodableRun.message (run : UndecodableRun) : String :=
  let reason := run.fault.message
  if run.length = 1 then
    let byte := String.ofList (hexDigits 2 run.first)
    s!"'utf-8' codec can't decode byte 0x{byte} in position {run.start}: {reason}"
  else
    let last := run.start + run.length - 1
    s!"'utf-8' codec can't decode bytes in position {run.start}-{last}: {reason}"

theorem countFitting_le_length (ranges : List ByteRange) (bytes : List Nat) :
    countFitting ranges bytes ≤ bytes.length := by
  fun_induction countFitting ranges bytes with
  | case1 range ranges byte bytes _ ih =>
      simp only [List.length_cons]
      omega
  | case2 => omega
  | case3 => omega

/-- The bytes that an error names are at least one and lie inside the text. -/
theorem undecodableFrom?_bounds {position : Nat} {bytes : List Nat} {run : UndecodableRun}
    (h : undecodableFrom? position bytes = some run) :
    position ≤ run.start ∧ 1 ≤ run.length ∧ run.start + run.length ≤ position + bytes.length := by
  fun_induction undecodableFrom? position bytes with
  | case1 => simp at h
  | case2 position first rest _ =>
      -- no character starts with the byte: the run is that byte alone
      obtain rfl := Option.some.inj h
      simp only [List.length_cons]
      omega
  | case3 position first rest ranges _ fitting _ ih =>
      -- a whole character is skipped
      have hfitting : fitting ≤ rest.length := countFitting_le_length ranges rest
      have hrest := ih h
      rw [List.length_drop] at hrest
      simp only [List.length_cons]
      omega
  | case4 position first rest ranges _ fitting _ fault =>
      -- the run holds the bytes of the character that fit
      have hfitting : fitting ≤ rest.length := countFitting_le_length ranges rest
      obtain rfl := Option.some.inj h
      simp only [List.length_cons]
      omega

/-- Bytes of ASCII are text, wherever they start. -/
theorem undecodableFrom?_ascii (position : Nat) (bytes : List Nat) (h : ∀ b ∈ bytes, b < 0x80) :
    undecodableFrom? position bytes = none := by
  induction bytes generalizing position with
  | nil => simp [undecodableFrom?]
  | cons first rest ih =>
      have hfirst : first < 0x80 := h first (by simp)
      have hrest : ∀ b ∈ rest, b < 0x80 := fun b hb => h b (by simp [hb])
      simp [undecodableFrom?, followers?, hfirst, countFitting, ih _ hrest]

/-- Bytes of ASCII are text. -/
theorem undecodableRun?_ascii (bytes : List Nat) (h : ∀ b ∈ bytes, b < 0x80) :
    undecodableRun? bytes = none :=
  undecodableFrom?_ascii 0 bytes h

end SignOut.Text
