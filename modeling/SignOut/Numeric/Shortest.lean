import SignOut.Numeric.Binary64

/-!
# The shortest text of a number

A finite number is written with the fewest decimal digits that read back as that number, and
among those with the digits nearest to it.  The search tries one digit, two digits and so on;
on each grid only the two neighbours of the value can read back.
-/

namespace SignOut.Numeric

/-- The value `digits * 10 ^ exponent`. -/
structure Decimal where
  digits : Nat
  exponent : Int
deriving DecidableEq, Repr

/-- The number of decimal digits of a positive natural number. -/
def digitCount (n : Nat) : Nat :=
  (Nat.toDigits 10 n).length

/-- The least `k` such that the value is below `10 ^ k`, for a positive count of units. -/
def decimalScale (units : Nat) : Int :=
  if Binary64.unitsPerOne ≤ units then digitCount (units / Binary64.unitsPerOne)
  else 1 - (digitCount ((Binary64.unitsPerOne - 1) / units) : Int)

namespace Decimal

/-- Drop trailing zeros of the digits into the exponent; `fuel` bounds their number. -/
def stripZeros : Nat → Decimal → Decimal
  | 0, d => d
  | fuel + 1, d =>
      if d.digits % 10 = 0 ∧ d.digits ≠ 0 then
        stripZeros fuel { digits := d.digits / 10, exponent := d.exponent + 1 }
      else d

/-- Four times the value in units, as a fraction. -/
def fourUnits (d : Decimal) : Nat × Nat :=
  (d.digits * Nat.pow 10 d.exponent.toNat * Binary64.unitsPerOne * 4,
    Nat.pow 10 (-d.exponent).toNat)

/-- Whether a decimal rounds to the positive finite number with the given units: it lies
between the midpoints to both neighbours, a midpoint counting when the number is even. -/
def readsBack (units : Nat) (d : Decimal) : Bool :=
  let k := Binary64.spacingExponent units
  let spacing := Nat.pow 2 k
  let narrow := 0 < k && units == Nat.pow 2 52 * spacing
  let low := if narrow then 4 * units - spacing else 4 * units - 2 * spacing
  let high := 4 * units + 2 * spacing
  let even := units / spacing % 2 == 0
  let (num, den) := d.fourUnits
  if even then low * den ≤ num && num ≤ high * den
  else low * den < num && num < high * den

/-- The distance of a decimal from a count of units, scaled alike for all decimals of one
exponent. -/
def distance (units : Nat) (d : Decimal) : Nat :=
  let (num, den) := d.fourUnits
  (num - 4 * units * den) + (4 * units * den - num)

/-- The neighbour of the value on the grid of the given exponent that reads back and is
nearest; of two equally near the even one. -/
def onGrid? (units : Nat) (exponent : Int) : Option Decimal :=
  let floor :=
    units * Nat.pow 10 (-exponent).toNat /
      (Binary64.unitsPerOne * Nat.pow 10 exponent.toNat)
  let below : Decimal := { digits := floor, exponent }
  let above : Decimal := { digits := floor + 1, exponent }
  match below.readsBack units, above.readsBack units with
  | true, false => some below
  | false, true => some above
  | false, false => none
  | true, true =>
      if below.distance units < above.distance units then some below
      else if above.distance units < below.distance units then some above
      else if floor % 2 = 0 then some below
      else some above

/-- The decimal with the fewest digits that reads back, nearest first. -/
def shortest (units : Nat) : Decimal :=
  let scale := decimalScale units
  let tried := (List.range 17).findSome? fun i => onGrid? units (scale - (i + 1 : Nat))
  (tried.getD { digits := units * Nat.pow 5 1074, exponent := -1074 }).stripZeros 1200

end Decimal

/-- The digits of a decimal with a point after the first `point` of them. -/
def plainLayout (digits : List Char) (point : Int) : List Char :=
  if point ≤ 0 then '0' :: '.' :: List.replicate (-point).toNat '0' ++ digits
  else if digits.length ≤ point.toNat then
    digits ++ List.replicate (point.toNat - digits.length) '0'
  else digits.take point.toNat ++ '.' :: digits.drop point.toNat

/-- A signed decimal exponent of at least two digits. -/
def exponentLayout (e : Int) : List Char :=
  let digits := Nat.toDigits 10 e.natAbs
  'e' :: (if e < 0 then '-' else '+') :: List.replicate (2 - digits.length) '0' ++ digits

/-- One digit before the point, the others after it, and the exponent. -/
def scientificLayout (digits : List Char) (e : Int) : List Char :=
  match digits with
  | [] => exponentLayout e
  | [d] => d :: exponentLayout e
  | d :: more => d :: '.' :: more ++ exponentLayout e

namespace Binary64

/-- The text of a positive finite value: positional while the exponent of the first digit lies
between -4 and 15, and with a fraction part in every positional text. -/
def shortestDigits (units : Nat) : List Char :=
  let d := Decimal.shortest units
  let digits := Nat.toDigits 10 d.digits
  let point : Int := digits.length + d.exponent
  if -4 < point ∧ point ≤ 16 then
    let plain := plainLayout digits point
    if '.' ∈ plain then plain else plain ++ ['.', '0']
  else scientificLayout digits (point - 1)

/-- The shortest text that reads back as the number. -/
def shortestText : Binary64 → String
  | .nan => "nan"
  | .infinite negative => if negative then "-inf" else "inf"
  | .finite negative units =>
      let digits := if units = 0 then ['0', '.', '0'] else shortestDigits units
      String.ofList (if negative then '-' :: digits else digits)

theorem shortestDigits_ne_nil (units : Nat) : shortestDigits units ≠ [] := by
  unfold shortestDigits
  simp only
  split
  · split
    · rename_i hpoint
      exact List.ne_nil_of_mem hpoint
    · simp
  · unfold scientificLayout exponentLayout
    split <;> simp

/-- Every number has a text. -/
theorem shortestText_ne_empty (x : Binary64) : x.shortestText ≠ "" := by
  cases x with
  | nan => decide
  | infinite negative => cases negative <;> decide
  | finite negative units =>
      have hdigits : (if units = 0 then ['0', '.', '0'] else shortestDigits units) ≠ [] := by
        split
        · exact List.cons_ne_nil _ _
        · exact shortestDigits_ne_nil units
      intro h
      have hchars := congrArg String.toList h
      cases negative with
      | false => exact hdigits (by simpa [shortestText] using hchars)
      | true => simp [shortestText] at hchars

/-- The number rounded to six significant digits, without trailing zeros; positional while the
exponent of the first digit lies between -4 and 5. -/
def significantText : Binary64 → String
  | .nan => "nan"
  | .infinite negative => if negative then "-inf" else "inf"
  | .finite negative units =>
      let body :=
        if units = 0 then ['0']
        else
          let grid := decimalScale units - 6
          let rounded :=
            roundDiv (units * Nat.pow 10 (-grid).toNat) (unitsPerOne * Nat.pow 10 grid.toNat)
          let d := Decimal.stripZeros 7 { digits := rounded, exponent := grid }
          let digits := Nat.toDigits 10 d.digits
          let point : Int := digits.length + d.exponent
          if -4 < point ∧ point ≤ 6 then plainLayout digits point
          else scientificLayout digits (point - 1)
      String.ofList (if negative then '-' :: body else body)

end Binary64

end SignOut.Numeric
