import LogHarvest.Calendar.Moment

/-!
# The lookback window

A source may ask for the events of the last so many minutes. The window starts that long before now, and a number of
minutes that no length of time can hold, or a start outside the calendar, is a fault.
-/

namespace LogHarvest.Window

/-- Why there is no start. -/
inductive Fault
  | tooLarge
  | tooManyDays (days : Int)
  | outsideCalendar
deriving DecidableEq, Repr

/-- The most days of a length of time. -/
def dayLimit : Int := 999999999

/-- The wording of a fault. -/
def Fault.message : Fault → Text
  | tooLarge => Text.ofString "Python int too large to convert to C int"
  | tooManyDays days =>
    Text.ofString "days=" ++ Text.ofInt days ++ Text.ofString "; must have magnitude <= " ++ Text.ofInt dayLimit
  | outsideCalendar => Text.ofString "date value out of range"

/-- The instant so many minutes before `now`. Whole days, rounded down, are counted in 32 bits first. -/
def start (now : Instant) (minutes : Int) : Except Fault Instant :=
  let days := Int.fdiv minutes 1440
  if days < -0x80000000 ∨ 0x80000000 ≤ days then .error .tooLarge
  else if days < -dayLimit ∨ dayLimit < days then .error (.tooManyDays days)
  else
    let first : Instant := { now with seconds := now.seconds - minutes * 60 }
    if first.inCalendar then .ok first else .error .outsideCalendar

end LogHarvest.Window
