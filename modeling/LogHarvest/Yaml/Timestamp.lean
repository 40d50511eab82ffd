import LogHarvest.Calendar.Moment
import LogHarvest.Data.Value

/-!
# Dates and moments in a document

A date is written `year-month-day`. A time of day may follow behind a `T` or blanks, with a fraction of a second and
an offset from UTC if wanted. Of the fraction six digits count.
-/

namespace LogHarvest.Yaml.Timestamp

/-- Reads something off the front of a text. -/
abbrev Take (α : Type) := StateT Text Option α

/-- One digit. -/
def digit : Take Nat := fun
  | s :: r => s.digit?.map (·, r)
  | [] => none

/-- Exactly two digits. -/
def twoDigits : Take Nat := do return (← digit) * 10 + (← digit)

/-- One or two digits. -/
def oneOrTwoDigits : Take Nat := twoDigits <|> digit

/-- A given character. -/
def mark (c : Char) : Take Unit := fun
  | s :: r => if s = .char c then some ((), r) else none
  | [] => none

/-- Blanks and tabs, and how many there are. -/
def blanks : Take Nat := fun t =>
  let rest := t.dropWhile fun s => s = .char ' ' || s = .char '\t'
  some (t.length - rest.length, rest)

/-- The microseconds of a fraction. -/
def fraction : Take Nat := do
  let t ← get
  let digits := t.takeWhile fun s => s.digit?.isSome
  set (t.drop digits.length)
  let six := (digits.take 6).filterMap Symbol.digit?
  return (six ++ List.replicate (6 - six.length) 0).foldl (fun n d => n * 10 + d) 0

/-- An offset in minutes. -/
def offset : Take Int := (do mark 'Z'; return 0) <|> do
  let negative ← (do mark '-'; return true) <|> (do mark '+'; return false)
  let hours ← oneOrTwoDigits
  let minutes ← (do mark ':'; twoDigits) <|> pure 0
  let n : Int := hours * 60 + minutes
  return if negative then -n else n

/-- The end of the text; a last line feed does not count. -/
def atEnd : Take Unit := fun t => if t = [] || t = [.char '\n'] then some ((), t) else none

/-- The time of day behind a date. -/
def timeOfDay : Take (Nat × Nat × Nat × Nat × Option Int) := do
  (do mark 'T') <|> (do mark 't') <|> (do if (← blanks) = 0 then failure)
  let hour ← oneOrTwoDigits
  mark ':'
  let minute ← twoDigits
  mark ':'
  let second ← twoDigits
  let micros ← (do mark '.'; fraction) <|> pure 0
  let zone ← (do
    let _ ← blanks
    return some (← offset)) <|> pure none
  return (hour, minute, second, micros, zone)

/-- A date or a moment whose numbers are not checked yet. -/
def whole : Take (Except Calendar.Fault Value) := do
  let year := (← twoDigits) * 100 + (← twoDigits)
  mark '-'
  let month ← oneOrTwoDigits
  mark '-'
  let day ← oneOrTwoDigits
  let date := Date.make? year month day
  (do atEnd; return date.map .date) <|> do
    let (hour, minute, second, micros, zone) ← timeOfDay
    atEnd
    return (Moment.make? date hour minute second micros zone).map .moment

/-- The date or moment that a text spells; none if it spells neither. -/
def read (t : Text) : Option (Except Calendar.Fault Value) := (whole t).map (·.1)

end LogHarvest.Yaml.Timestamp
