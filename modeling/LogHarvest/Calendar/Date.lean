import LogHarvest.Text.Basic

/-!
# Dates

Dates of the Gregorian calendar, extended to all years from 1 to 9999. A date has a day number, counted from zero on
1 January of year 1; `Date.ofDayNumber` finds the date of a number without a search, since `400` years always have
`146097` days and the year is then off by at most one.
-/

namespace LogHarvest

/-- A day of the calendar. -/
structure Date where
  year : Nat
  month : Nat
  day : Nat
deriving DecidableEq, Repr, Inhabited

/-- What keeps numbers from being a date or a time. -/
inductive Calendar.Fault
  | year (n : Nat)
  | month
  | day
  | hour
  | minute
  | second
  | offset (minutes : Int)
deriving DecidableEq, Repr

namespace Date

/-- Every fourth year is a leap year, but of the centuries only every fourth. -/
def isLeap (year : Nat) : Bool := year % 4 == 0 && (year % 100 != 0 || year % 400 == 0)

/-- The lengths of the months of a year. -/
def monthLengths (year : Nat) : List Nat :=
  [31, if isLeap year then 29 else 28, 31, 30, 31, 30, 31, 31, 30, 31, 30, 31]

/-- The number of days in the years from 1 to `y`. -/
def daysInYears (y : Nat) : Nat := 365 * y + y / 4 - y / 100 + y / 400

/-- The last year of the calendar. -/
def lastYear : Nat := 9999

/-- The date of three numbers. The year is looked at first, the day last. -/
def make? (year month day : Nat) : Except Calendar.Fault Date :=
  if year = 0 ∨ lastYear < year then .error (.year year)
  else if month = 0 ∨ 12 < month then .error .month
  else if day = 0 ∨ (monthLengths year).getD (month - 1) 0 < day then .error .day
  else .ok ⟨year, month, day⟩

/-- The number of days since 1 January of year 1. -/
def dayNumber (d : Date) : Nat :=
  daysInYears (d.year - 1) + ((monthLengths d.year).take (d.month - 1)).foldr (· + ·) 0 + (d.day - 1)

/-- The month and the day of month of the day with number `n` of a year, given the lengths of the months left. -/
def inMonths (month n : Nat) : List Nat → Nat × Nat
  | [] => (month, n + 1)
  | length :: rest => if n < length then (month, n + 1) else inMonths (month + 1) (n - length) rest

/-- How many whole years lie before the day with number `n`. -/
def yearsBefore (n : Nat) : Nat :=
  let guess := n * 400 / 146097
  if n < daysInYears guess then guess - 1
  else if daysInYears (guess + 1) ≤ n then guess + 1
  else guess

/-- The date of a day number. -/
def ofDayNumber (n : Nat) : Date :=
  let y := yearsBefore n
  let (month, day) := inMonths 1 (n - daysInYears y) (monthLengths (y + 1))
  ⟨y + 1, month, day⟩

/-- The day lies in the year that `yearsBefore` finds. -/
theorem daysInYears_yearsBefore_le (n : Nat) : daysInYears (yearsBefore n) ≤ n := by
  unfold yearsBefore daysInYears
  grind

theorem lt_daysInYears_yearsBefore (n : Nat) : n < daysInYears (yearsBefore n + 1) := by
  unfold yearsBefore daysInYears
  grind

/-- The text `year-month-day` with four, two and two digits. -/
def render (d : Date) : Text :=
  Text.padded 4 d.year ++ Text.ofString "-" ++ Text.padded 2 d.month ++ Text.ofString "-" ++ Text.padded 2 d.day

end Date

/-- The wording of a fault. An offset is shown in days and seconds, the days rounded down. -/
def Calendar.Fault.message : Calendar.Fault → Text
  | year n => Text.ofString "year " ++ Text.ofNat n ++ Text.ofString " is out of range"
  | month => Text.ofString "month must be in 1..12"
  | day => Text.ofString "day is out of range for month"
  | hour => Text.ofString "hour must be in 0..23"
  | minute => Text.ofString "minute must be in 0..59"
  | second => Text.ofString "second must be in 0..59"
  | offset minutes =>
    let days := Int.fdiv minutes 1440
    let seconds := Int.fmod minutes 1440 * 60
    Text.ofString "offset must be a timedelta strictly between -timedelta(hours=24) and timedelta(hours=24), not " ++
      Text.ofString "datetime.timedelta(days=" ++ Text.ofInt days ++
      (if seconds = 0 then [] else Text.ofString ", seconds=" ++ Text.ofInt seconds) ++ Text.ofString ")."

end LogHarvest
