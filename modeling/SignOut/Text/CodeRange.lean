/-!
# Ranges of code points

Character classes are ascending lists of closed ranges of code points.  A lookup stops at the
first range that lies above the point, so common characters are decided early.
-/

namespace SignOut.Text

/-- A closed range of code points. -/
abbrev CodeRange := Nat × Nat

/-- Membership in an ascending list of ranges. -/
def inRanges : List CodeRange → Nat → Bool
  | [], _ => false
  | (low, high) :: rest, n =>
      if n < low then false
      else if n ≤ high then true
      else inRanges rest n

/-- Ranges that ascend and do not touch. -/
def Ascending : List CodeRange → Bool
  | [] => true
  | [r] => r.1 ≤ r.2
  | r :: s :: rest => r.1 ≤ r.2 && r.2 + 1 < s.1 && Ascending (s :: rest)

end SignOut.Text
