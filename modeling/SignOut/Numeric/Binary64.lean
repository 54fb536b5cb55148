import SignOut.Text.Quoted

/-!
# Binary floating-point numbers of 64 bits

A finite number is a sign and a count of units of `2 ^ -1074`, the least positive value, so
that all finite values are compared and rounded in exact integer arithmetic.  Rounding goes to
the nearest value of 53 significant bits, ties to even, and to infinity from `2 ^ 1024` on.
-/

namespace SignOut.Numeric

/-- A number of the binary format of 64 bits. -/
inductive Binary64 where
  | nan
  | infinite (negative : Bool)
  | finite (negative : Bool) (units : Nat)
deriving DecidableEq, Repr

/-- The quotient of two naturals, rounded to the nearest integer, ties to even. -/
def roundDiv (num den : Nat) : Nat :=
  let quotient := num / den
  let twice := 2 * (num % den)
  if twice < den then quotient
  else if den < twice then quotient + 1
  else if quotient % 2 = 0 then quotient
  else quotient + 1

namespace Binary64

/-- The units in one. -/
def unitsPerOne : Nat := Nat.pow 2 1074

/-- The number one. -/
def one : Binary64 := .finite false unitsPerOne

/-- The exponent of the spacing, in units, of the values around a magnitude. -/
def spacingExponent (units : Nat) : Nat :=
  units.log2 - 52

/-- The natural number of 53 significant bits nearest to another one. -/
def roundNat (n : Nat) : Nat :=
  let spacing := Nat.pow 2 (spacingExponent n)
  roundDiv n spacing * spacing

/-- The integer of 53 significant bits nearest to another one. -/
def roundInt (n : Int) : Int :=
  n.sign * roundNat n.natAbs

/-- Up to 53 bits every natural number is kept. -/
theorem roundNat_of_lt {n : Nat} (h : n < Nat.pow 2 53) : roundNat n = n := by
  have hk : spacingExponent n = 0 := by
    unfold spacingExponent
    rcases Nat.eq_zero_or_pos n with rfl | hn
    · decide
    · have := (Nat.log2_lt (by omega)).mpr h
      omega
  simp [roundNat, roundDiv, hk, Nat.mod_one]

/-- The first natural number that is not kept lies halfway and goes to its even neighbour. -/
example : roundNat (Nat.pow 2 53 + 1) = Nat.pow 2 53 := by
  decide +kernel

/-- The value nearest to `num / den` units with the given sign. -/
def nearest (negative : Bool) (num den : Nat) : Binary64 :=
  let spacing := Nat.pow 2 (spacingExponent (num / den))
  let units := roundDiv num (den * spacing) * spacing
  if units < Nat.pow 2 2098 then .finite negative units else .infinite negative

/-- The value nearest to `digits * 10 ^ exponent` with the given sign.  An exponent so large
or so small that the digits cannot matter is decided at once. -/
def ofDecimal (negative : Bool) (digits : Nat) (exponent : Int) : Binary64 :=
  if digits = 0 then .finite negative 0
  else
    let magnitude : Int := (digits.log2 / 4 : Nat) + exponent
    if 400 < exponent ∨ 400 < magnitude then .infinite negative
    else if magnitude < -400 - (digits.log2 : Int) then .finite negative 0
    else
      nearest negative (digits * Nat.pow 10 exponent.toNat * unitsPerOne)
        (Nat.pow 10 (-exponent).toNat)

/-- A finite value in units, with its sign; zero has one count for both signs. -/
def toUnits? : Binary64 → Option Int
  | .nan => none
  | .infinite _ => none
  | .finite negative units => some (if negative then -(units : Int) else units)

/-- The order of the numbers; nothing is comparable with a value that is no number. -/
def le : Binary64 → Binary64 → Bool
  | .nan, _ => false
  | _, .nan => false
  | .infinite n, .infinite m => n || !m
  | .infinite n, .finite _ _ => n
  | .finite _ _, .infinite m => !m
  | .finite n u, .finite m v =>
      decide ((if n then -(u : Int) else u) ≤ (if m then -(v : Int) else v))

/-- The 64 bits of a number, read as a natural number. -/
def toBits : Binary64 → Nat
  | .nan => 0x7FF8000000000000
  | .infinite negative => (if negative then Nat.pow 2 63 else 0) + 0x7FF0000000000000
  | .finite negative units =>
      let k := spacingExponent units
      (if negative then Nat.pow 2 63 else 0) + k * Nat.pow 2 52 + units / Nat.pow 2 k

/-- The bits of a number as sixteen hexadecimal digits. -/
def toHex (x : Binary64) : String :=
  String.ofList (Text.hexDigits 16 x.toBits)

/-- Whether a value counts as nothing: both zeros do. -/
def isZero : Binary64 → Bool
  | .finite _ units => units == 0
  | _ => false

/-- The integer a finite value equals, if there is one. -/
def toInt? : Binary64 → Option Int
  | .finite negative units =>
      if units % unitsPerOne = 0 then
        let n : Int := (units / unitsPerOne : Nat)
        some (if negative then -n else n)
      else none
  | _ => none

end Binary64

end SignOut.Numeric
