import SignOut.Numeric.Binary64
import SignOut.Text.Numeral

/-!
# Dates and times

Seconds since the start of 1970 as a date of the Gregorian calendar, the date form of cookies,
the plain form of the log and the timestamp form of events.  Days are counted from the first of
March of year zero, so that the leap day is the last day of its year.  Moments too far from the
present have no date.  Cookies and the log take their moments in binary floating point; events
take them exactly.
-/

namespace SignOut.Calendar

/-- A day of the Gregorian calendar. -/
structure Date where
  year : Int
  month : Nat
  day : Nat
deriving DecidableEq, Repr

/-- A time of day. -/
structure Time where
  hour : Nat
  minute : Nat
  second : Nat
deriving DecidableEq, Repr

/-- The days of four centuries. -/
def daysPerEra : Int := 146097

/-- The days from the first of March of year zero to the first of January 1970. -/
def daysBeforeEpoch : Int := 719468

/-- The date that lies a number of days after the first of January 1970. -/
def dateOfDays (days : Int) : Date :=
  let shifted := days + daysBeforeEpoch
  let era := shifted.fdiv daysPerEra
  let dayOfEra := (shifted.fmod daysPerEra).toNat
  let yearOfEra :=
    (dayOfEra - dayOfEra / 1460 + dayOfEra / 36524 - dayOfEra / 146096) / 365
  let dayOfYear := dayOfEra - (365 * yearOfEra + yearOfEra / 4 - yearOfEra / 100)
  let monthFromMarch := (5 * dayOfYear + 2) / 153
  let day := dayOfYear - (153 * monthFromMarch + 2) / 5 + 1
  let month := if monthFromMarch < 10 then monthFromMarch + 3 else monthFromMarch - 9
  { year := yearOfEra + era * 400 + (if month ≤ 2 then 1 else 0), month, day }

/-- The day number of a moment given in seconds. -/
def dayOfSeconds (seconds : Int) : Int :=
  seconds.fdiv 86400

/-- The time of day of a moment given in seconds. -/
def timeOfSeconds (seconds : Int) : Time :=
  let rest := (seconds.fmod 86400).toNat
  { hour := rest / 3600, minute := rest / 60 % 60, second := rest % 60 }

/-- A moment in binary floating point: the nearest count of seconds of 53 significant bits. -/
def floatingSeconds (seconds : Int) : Int :=
  Numeric.Binary64.roundInt seconds

/-- A part of a moment that has a fixed range. -/
inductive Part where
  | month
  | hour
  | minute
  | second
  | microsecond
deriving DecidableEq, Repr

/-- The name of a part. -/
def Part.name : Part → String
  | month => "month"
  | hour => "hour"
  | minute => "minute"
  | second => "second"
  | microsecond => "microsecond"

/-- The least value of a part. -/
def Part.least : Part → Nat
  | month => 1
  | _ => 0

/-- The greatest value of a part. -/
def Part.greatest : Part → Nat
  | month => 12
  | hour => 23
  | minute => 59
  | second => 59
  | microsecond => 999999

/-- Why a moment is refused. -/
inductive MomentFault where
  | beyondSeconds
  | beyondDates
  | beyondYears (year : Int)
  | beyondMonth
  | beyondPart (part : Part)
  | beyondOffsets (minutes : Int)
deriving DecidableEq, Repr

/-- The minutes of a day. -/
def minutesPerDay : Int := 1440

/-- A span of minutes, as days and the seconds that remain. -/
def spanText (minutes : Int) : String :=
  let days := minutes.fdiv minutesPerDay
  let seconds := minutes.fmod minutesPerDay * 60
  let parts :=
    (if days = 0 then [] else [s!"days={days}"]) ++
      (if seconds = 0 then [] else [s!"seconds={seconds}"])
  "datetime.timedelta(" ++ ", ".intercalate parts ++ ")"

/-- The words for a refused moment. -/
def MomentFault.message : MomentFault → String
  | beyondSeconds => "timestamp out of range for platform time_t"
  | beyondDates => "[Errno 75] Value too large for defined data type"
  | beyondYears year => s!"year {year} is out of range"
  | beyondMonth => "day is out of range for month"
  | beyondPart part => s!"{part.name} must be in {part.least}..{part.greatest}"
  | beyondOffsets minutes =>
      "offset must be a timedelta strictly between -timedelta(hours=24) and " ++
        s!"timedelta(hours=24), not {spanText minutes}."

/-- The year from which dates count their years, in 32 bits. -/
def firstCountedYear : Int := 1900

/-- The date of a moment: its seconds must fit 64 bits and its years 32 bits. -/
def dateOfSeconds (seconds : Int) : Except MomentFault Date :=
  let date := dateOfDays (dayOfSeconds seconds)
  let years := date.year - firstCountedYear
  if seconds < -(Nat.pow 2 63 : Int) ∨ (Nat.pow 2 63 : Int) ≤ seconds then .error .beyondSeconds
  else if years < -(Nat.pow 2 31 : Int) ∨ (Nat.pow 2 31 : Int) ≤ years then .error .beyondDates
  else .ok date

/-- A text of at least `width` characters, filled from the left. -/
def padded (fill : Char) (width : Nat) (text : String) : String :=
  String.ofList (List.replicate (width - text.length) fill) ++ text

/-- What holds of the fill and of a text holds of the filled text. -/
theorem forall_mem_padded {p : Char → Prop} {fill : Char} (hfill : p fill) (width : Nat)
    {text : String} (htext : ∀ c ∈ text.toList, p c) : ∀ c ∈ (padded fill width text).toList, p c := by
  unfold padded
  rw [String.toList_append, String.toList_ofList]
  refine List.forall_mem_append.mpr ⟨fun c hc => ?_, htext⟩
  rw [List.eq_of_mem_replicate hc]
  exact hfill

/-- A number of at least two digits. -/
def twoDigits (n : Nat) : String :=
  padded '0' 2 (toString n)

theorem forall_mem_twoDigits {p : Char → Prop} (hdigit : ∀ c : Char, c.isDigit = true → p c)
    (n : Nat) : ∀ c ∈ (twoDigits n).toList, p c :=
  forall_mem_padded (hdigit '0' rfl) 2 (Text.forall_mem_toString_nat hdigit n)

/-- The names of the days of the week from Monday on. -/
def weekdayNames : List String := ["Mon", "Tue", "Wed", "Thu", "Fri", "Sat", "Sun"]

/-- The names of the months. -/
def monthNames : List String :=
  ["Jan", "Feb", "Mar", "Apr", "May", "Jun", "Jul", "Aug", "Sep", "Oct", "Nov", "Dec"]

/-- Hours, minutes and seconds between colons. -/
def timeText (t : Time) : String :=
  twoDigits t.hour ++ ":" ++ twoDigits t.minute ++ ":" ++ twoDigits t.second

/-- The date form of cookies, such as `Tue, 14 Nov 2023 22:13:20 GMT`, for a moment in binary
floating point. -/
def cookieDate (moment : Int) : Except MomentFault String := do
  let seconds := floatingSeconds moment
  let date ← dateOfSeconds seconds
  let weekday := weekdayNames.getD ((dayOfSeconds seconds + 3).fmod 7).toNat ""
  let month := monthNames.getD (date.month - 1) ""
  return weekday ++ ", " ++ twoDigits date.day ++ " " ++ month ++ " " ++
    padded ' ' 4 (toString date.year) ++ " " ++ timeText (timeOfSeconds seconds) ++ " GMT"

/-- The first year too large to be written in the plain form. -/
def plainYearsEnd : Int := Nat.pow 2 31

/-- A date and a time with a blank between them, such as `2023-11-14 22:13:20`, for a moment in
binary floating point. -/
def plainText (moment : Int) : Except MomentFault String := do
  let seconds := floatingSeconds moment
  let date ← dateOfSeconds seconds
  if plainYearsEnd ≤ date.year then .error (.beyondYears date.year)
  else
    return toString date.year ++ "-" ++ twoDigits date.month ++ "-" ++ twoDigits date.day ++ " " ++
      timeText (timeOfSeconds seconds)

/-- A moment as a local date and time with its offset from universal time in minutes. -/
structure Timestamp where
  date : Date
  time : Time
  microsecond : Nat
  offset : Int
deriving DecidableEq, Repr

/-- The last year of timestamps; the first one is 1. -/
def lastYear : Int := 9999

/-- A year in which timestamps lie. -/
def requireYear (year : Int) : Except MomentFault Int :=
  if year < 1 ∨ lastYear < year then .error (.beyondYears year) else .ok year

/-- The moment a number of seconds after the start of 1970, in universal time.  Its year is
counted in 32 bits. -/
def Timestamp.ofSeconds (seconds : Int) : Except MomentFault Timestamp := do
  let date ← dateOfSeconds seconds
  let year ← requireYear (date.year.bmod (Nat.pow 2 32))
  return {
    date := { date with year }
    time := timeOfSeconds seconds
    microsecond := 0
    offset := 0 }

/-- A year with a leap day. -/
def isLeapYear (year : Int) : Bool :=
  year % 4 = 0 && (year % 100 ≠ 0 || year % 400 = 0)

/-- The days of a month. -/
def daysOfMonth (year : Int) (month : Nat) : Nat :=
  if month = 2 then (if isLeapYear year then 29 else 28)
  else if month ∈ [4, 6, 9, 11] then 30
  else 31

/-- A value of a part within its range. -/
def Part.require (part : Part) (value : Int) : Except MomentFault Nat :=
  if value < part.least ∨ part.greatest < value then .error (.beyondPart part)
  else .ok value.toNat

/-- A day that its month has. -/
def requireDay (year : Int) (month : Nat) (day : Int) : Except MomentFault Nat :=
  if day < 1 ∨ daysOfMonth year month < day then .error .beyondMonth else .ok day.toNat

/-- An offset of less than a day. -/
def requireOffset (minutes : Int) : Except MomentFault Int :=
  if minutesPerDay ≤ minutes.natAbs then .error (.beyondOffsets minutes) else .ok minutes

/-- The moment of a local date and time, given as numbers from the year to the microsecond, or
the first of them that is out of range.  Numbers left out at the end are zero. -/
def Timestamp.ofLocal (numbers : List Int) (offset : Int) : Except MomentFault Timestamp := do
  let offset ← requireOffset offset
  let number (i : Nat) := numbers.getD i 0
  let year ← requireYear (number 0)
  let month ← Part.require .month (number 1)
  let day ← requireDay year month (number 2)
  let hour ← Part.require .hour (number 3)
  let minute ← Part.require .minute (number 4)
  let second ← Part.require .second (number 5)
  let microsecond ← Part.require .microsecond (number 6)
  return { date := { year, month, day }, time := { hour, minute, second }, microsecond, offset }

/-- The form of event timestamps: date and time around a `T`, the fraction of the second where
it is not zero, and the offset. -/
def Timestamp.toText (t : Timestamp) : String :=
  let fraction := if t.microsecond = 0 then "" else "." ++ padded '0' 6 (toString t.microsecond)
  let sign := if t.offset < 0 then "-" else "+"
  let minutes := t.offset.natAbs
  padded '0' 4 (toString t.date.year) ++ "-" ++ twoDigits t.date.month ++ "-" ++
    twoDigits t.date.day ++ "T" ++ timeText t.time ++ fraction ++ sign ++
    twoDigits (minutes / 60) ++ ":" ++ twoDigits (minutes % 60)

end SignOut.Calendar
