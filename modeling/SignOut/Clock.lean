/-!
# The clock of the machine

The clock counts nanoseconds from the start of 1970 in 64 bits.  A moment that lies outside of them
is shown as the nearest one that lies within.  So reading the clock never fails, and what is read is
a second of the years from 1677 to 2262.  A clock that was set by hand may show any second.
-/

namespace SignOut.Clock

/-- The nanoseconds of a second. -/
def nanosecondsPerSecond : Int := 1000000000

/-- The first moment that the clock can count, in nanoseconds. -/
def first : Int := -(Nat.pow 2 63 : Int)

/-- The last moment that the clock can count, in nanoseconds. -/
def last : Int := (Nat.pow 2 63 : Int) - 1

/-- The second that the clock shows at a moment, which is given in nanoseconds. -/
def reading (moment : Int) : Int :=
  (max first (min last moment)).fdiv nanosecondsPerSecond

/-- A second that the clock shows at some moment. -/
def Shows (second : Int) : Prop :=
  ∃ moment, reading moment = second

/-- The clock shows the seconds from that of its first moment to that of its last one. -/
theorem shows_iff {second : Int} :
    Shows second ↔ reading first ≤ second ∧ second ≤ reading last := by
  have hfirst : reading first = -9223372037 := rfl
  have hlast : reading last = 9223372036 := rfl
  have hcount : (Nat.pow 2 63 : Int) = 9223372036854775808 := rfl
  rw [hfirst, hlast]
  constructor
  · rintro ⟨moment, rfl⟩
    rw [reading, first, last, nanosecondsPerSecond, hcount,
      Int.fdiv_eq_ediv_of_nonneg _ (by decide)]
    omega
  · rintro ⟨hlow, hhigh⟩
    -- the first second that the clock shows began before its first moment
    refine ⟨second * nanosecondsPerSecond, ?_⟩
    rw [reading, first, last, nanosecondsPerSecond, hcount,
      Int.fdiv_eq_ediv_of_nonneg _ (by decide)]
    omega

instance (second : Int) : Decidable (Shows second) :=
  decidable_of_iff _ shows_iff.symm

end SignOut.Clock
