import SignOut.Calendar
import SignOut.Clock
import SignOut.Proofs.Checks

/-!
# Moments with a timestamp

A timestamp counts its years from 1 to 9999.  The other limits of dates, those of the count of
seconds and of the count of years, lie far outside of these years, so that the year of a moment
alone decides whether it has a timestamp.  A year that is counted in 32 bits can come out as another
one, but never as one of these.  The clock of the machine shows no other years than these.
-/

namespace SignOut.Calendar

/-- The year that a moment lies in. -/
def yearOfSeconds (seconds : Int) : Int :=
  (dateOfDays (dayOfSeconds seconds)).year

/-- A moment lies in the years of timestamps. -/
def IsStampable (seconds : Int) : Prop :=
  1 ≤ yearOfSeconds seconds ∧ yearOfSeconds seconds ≤ lastYear

instance (seconds : Int) : Decidable (IsStampable seconds) :=
  inferInstanceAs (Decidable (_ ∧ _))

/-- Four centuries of days make up four hundred years, and one more at their end. -/
theorem exists_year_eq (days : Int) :
    ∃ year ≤ 400, (dateOfDays days).year =
      (days + daysBeforeEpoch).fdiv daysPerEra * 400 + (year : Nat) := by
  have hlast : ((days + daysBeforeEpoch).fmod daysPerEra).toNat < 146097 := by
    have hrest := Int.fmod_lt_of_pos (days + daysBeforeEpoch) (b := daysPerEra) (by decide)
    rw [daysPerEra] at hrest ⊢
    omega
  unfold dateOfDays
  dsimp only
  generalize ((days + daysBeforeEpoch).fmod daysPerEra).toNat = day at hlast
  generalize hyear : (day - day / 1460 + day / 36524 - day / 146096) / 365 = year
  have hcounted : year ≤ 399 := by omega
  -- the year of the count starts in March: January and February belong to the next one
  split
  · exact ⟨year, by omega, by omega⟩
  split
  · exact ⟨year + 1, by omega, by omega⟩
  · exact ⟨year, by omega, by omega⟩

/-- The moments of the years of timestamps fit the counters of dates. -/
theorem IsStampable.bounds {seconds : Int} (h : IsStampable seconds) :
    -(Nat.pow 2 63 : Int) ≤ seconds ∧ seconds < (Nat.pow 2 63 : Int) := by
  obtain ⟨hfirst, hlast⟩ := h
  obtain ⟨year, hyear, heq⟩ := exists_year_eq (dayOfSeconds seconds)
  rw [yearOfSeconds, heq] at hfirst hlast
  rw [Int.fdiv_eq_ediv_of_nonneg _ (by decide), dayOfSeconds,
    Int.fdiv_eq_ediv_of_nonneg _ (by decide)] at hfirst hlast
  have hcount : (Nat.pow 2 63 : Int) = 9223372036854775808 := rfl
  rw [daysPerEra, daysBeforeEpoch] at hfirst hlast
  rw [lastYear] at hlast
  omega

theorem requireYear_eq_ok_iff {year given : Int} :
    requireYear year = .ok given ↔ given = year ∧ 1 ≤ year ∧ year ≤ lastYear := by
  unfold requireYear
  split
  · rename_i hbeyond
    constructor
    · intro h
      cases h
    · rintro ⟨-, hfirst, hlast⟩
      omega
  · rename_i hwithin
    constructor
    · intro h
      cases h
      omega
    · rintro ⟨rfl, -⟩
      rfl

/-- A date is the one of its day, and its year is counted in 32 bits. -/
theorem dateOfSeconds_eq_ok_iff {seconds : Int} {date : Date} :
    dateOfSeconds seconds = .ok date ↔ date = dateOfDays (dayOfSeconds seconds) ∧
      (-(Nat.pow 2 63 : Int) ≤ seconds ∧ seconds < (Nat.pow 2 63 : Int)) ∧
      (-(Nat.pow 2 31 : Int) ≤ yearOfSeconds seconds - firstCountedYear ∧
        yearOfSeconds seconds - firstCountedYear < (Nat.pow 2 31 : Int)) := by
  unfold dateOfSeconds
  dsimp only
  rw [← yearOfSeconds]
  split
  · rename_i hbeyond
    constructor
    · intro h
      cases h
    · rintro ⟨-, hseconds, -⟩
      omega
  split
  · rename_i hbeyond
    constructor
    · intro h
      cases h
    · rintro ⟨-, -, hyears⟩
      omega
  · rename_i hseconds hyears
    constructor
    · intro h
      cases h
      exact ⟨rfl, by omega, by omega⟩
    · rintro ⟨rfl, -⟩
      rfl

/-- A year counted in 32 bits is itself if timestamps have it, and no other counts as one of those:
the years in question are fewer than 32 bits tell apart. -/
theorem bmod_year_iff {year : Int} (hlow : -(Nat.pow 2 31 : Int) ≤ year - firstCountedYear)
    (hhigh : year - firstCountedYear < (Nat.pow 2 31 : Int)) :
    (1 ≤ year.bmod (Nat.pow 2 32) ∧ year.bmod (Nat.pow 2 32) ≤ lastYear) ↔
      1 ≤ year ∧ year ≤ lastYear := by
  have hhalf : (Nat.pow 2 31 : Int) = 2147483648 := rfl
  have hwhole : Nat.pow 2 32 = 4294967296 := rfl
  rw [firstCountedYear] at hlow hhigh
  rw [hwhole, lastYear, Int.bmod_def]
  split
  · omega
  · omega

/-- A moment has a timestamp iff it lies in the years from 1 to 9999. -/
theorem Timestamp.exists_ofSeconds_iff {seconds : Int} :
    (∃ timestamp, Timestamp.ofSeconds seconds = .ok timestamp) ↔ IsStampable seconds := by
  constructor
  · rintro ⟨timestamp, h⟩
    obtain ⟨date, hdate, h⟩ := Checks.bind_eq_ok_iff.mp h
    obtain ⟨year, hyear, -⟩ := Checks.bind_eq_ok_iff.mp h
    obtain ⟨rfl, -, hlow, hhigh⟩ := dateOfSeconds_eq_ok_iff.mp hdate
    exact (bmod_year_iff hlow hhigh).mp (requireYear_eq_ok_iff.mp hyear).2
  · intro h
    have hyears : -(Nat.pow 2 31 : Int) ≤ yearOfSeconds seconds - firstCountedYear ∧
        yearOfSeconds seconds - firstCountedYear < (Nat.pow 2 31 : Int) := by
      obtain ⟨hfirst, hlast⟩ := h
      have hcount : (Nat.pow 2 31 : Int) = 2147483648 := rfl
      rw [firstCountedYear]
      rw [lastYear] at hlast
      omega
    have hdate := dateOfSeconds_eq_ok_iff.mpr ⟨rfl, h.bounds, hyears⟩
    have hyear := requireYear_eq_ok_iff.mpr ⟨rfl, (bmod_year_iff hyears.1 hyears.2).mpr h⟩
    exact ⟨_, Checks.bind_eq_ok_iff.mpr ⟨_, hdate, Checks.bind_eq_ok_iff.mpr ⟨_, hyear, rfl⟩⟩⟩

/-- The first and the last second of the years of timestamps, and the seconds around them. -/
example : ¬ IsStampable (-62135596801) ∧ IsStampable (-62135596800) ∧ IsStampable 253402300799 ∧
    ¬ IsStampable 253402300800 := by
  decide

/-- Every second that the clock of the machine shows lies in the years of timestamps. -/
theorem isStampable_of_shows {second : Int} (h : Clock.Shows second) : IsStampable second := by
  obtain ⟨hlow, hhigh⟩ := Clock.shows_iff.mp h
  have hfirst : Clock.reading Clock.first = -9223372037 := rfl
  have hlast : Clock.reading Clock.last = 9223372036 := rfl
  rw [hfirst] at hlow
  rw [hlast] at hhigh
  obtain ⟨year, hyear, heq⟩ := exists_year_eq (dayOfSeconds second)
  unfold IsStampable
  rw [yearOfSeconds, heq, Int.fdiv_eq_ediv_of_nonneg _ (by decide), dayOfSeconds,
    Int.fdiv_eq_ediv_of_nonneg _ (by decide), daysPerEra, daysBeforeEpoch, lastYear]
  omega

/-- On the clock of the machine every moment has a timestamp. -/
theorem Timestamp.exists_of_shows {second : Int} (h : Clock.Shows second) :
    ∃ timestamp, Timestamp.ofSeconds second = .ok timestamp :=
  exists_ofSeconds_iff.mpr (isStampable_of_shows h)

end SignOut.Calendar
