import LogHarvest.Calendar.Date

/-!
# Moments

A moment is a date and a time of day, with or without an offset from UTC. One with an offset names an instant, which
is counted in seconds from the beginning of year 1 in UTC, with microseconds beside.
-/

namespace LogHarvest

/-- A date and a time of day; the offset is in minutes. -/
structure Moment where
  date : Date
  hour : Nat
  minute : Nat
  second : Nat
  micros : Nat
  offset : Option Int
deriving DecidableEq, Repr, Inhabited

/-- A point in time: seconds since the beginning of year 1 in UTC, and microseconds. -/
structure Instant where
  seconds : Int
  micros : Nat
deriving DecidableEq, Repr, Inhabited

namespace Moment

/-- The moment of its numbers. The date is looked at first, then the offset. -/
def make? (date : Except Calendar.Fault Date) (hour minute second micros : Nat) (offset : Option Int) :
    Except Calendar.Fault Moment :=
  match offset with
  | some m =>
    if m ≤ -1440 ∨ 1440 ≤ m then .error (.offset m) else checked
  | none => checked
where
  checked : Except Calendar.Fault Moment :=
    match date with
    | .error e => .error e
    | .ok date =>
      if 23 < hour then .error .hour
      else if 59 < minute then .error .minute
      else if 59 < second then .error .second
      else .ok ⟨date, hour, minute, second, micros, offset⟩

/-- Seconds from the beginning of year 1, the offset left aside. -/
def localSeconds (m : Moment) : Nat :=
  m.date.dayNumber * 86400 + m.hour * 3600 + m.minute * 60 + m.second

/-- The instant of a moment; without an offset it is taken to be in UTC. -/
def toInstant (m : Moment) : Instant :=
  ⟨(m.localSeconds : Int) - m.offset.getD 0 * 60, m.micros⟩

/-- An offset as hours and minutes with a sign. -/
def renderOffset (minutes : Int) : Text :=
  Text.ofString (if minutes < 0 then "-" else "+") ++ Text.padded 2 (minutes.natAbs / 60) ++
    Text.ofString ":" ++ Text.padded 2 (minutes.natAbs % 60)

/-- The text of a moment: microseconds only if there are any, an offset only if it has one. -/
def render (m : Moment) : Text :=
  m.date.render ++ Text.ofString "T" ++ Text.padded 2 m.hour ++ Text.ofString ":" ++ Text.padded 2 m.minute ++
    Text.ofString ":" ++ Text.padded 2 m.second ++
    (if m.micros = 0 then [] else Text.ofString "." ++ Text.padded 6 m.micros) ++
    (match m.offset with
      | none => []
      | some minutes => renderOffset minutes)

end Moment

namespace Instant

/-- The number of seconds in the whole calendar. -/
def calendarSeconds : Int := Date.daysInYears Date.lastYear * 86400

/-- Whether the instant lies in a year of the calendar. -/
def inCalendar (i : Instant) : Bool := 0 ≤ i.seconds && i.seconds < calendarSeconds

/-- The moment of an instant in UTC. -/
def toMoment (i : Instant) : Moment :=
  let n := i.seconds.toNat
  let time := n % 86400
  ⟨Date.ofDayNumber (n / 86400), time / 3600, time / 60 % 60, time % 60, i.micros, some 0⟩

end Instant

end LogHarvest
