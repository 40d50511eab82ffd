import LogHarvest.Data.Value
import LogHarvest.Number.Shortest
import LogHarvest.Text.Quoted

/-!
# How values are shown

Log lines and error texts show values on one line: text quoted, lists in brackets, maps in braces, the three constants
with a capital letter. On its own a text is shown as it is.
-/

namespace LogHarvest.Value

/-- A byte of a byte string between quotes `q`. -/
def shownByte (q : Char) (b : UInt8) : Text :=
  let c := Char.ofNat b.toNat
  if c = '\\' then Text.ofString "\\\\"
  else if c = '\n' then Text.ofString "\\n"
  else if c = '\r' then Text.ofString "\\r"
  else if c = '\t' then Text.ofString "\\t"
  else if c = q then [.char '\\', .char c]
  else if 0x20 ≤ b && b < 0x7F then [.char c]
  else Text.ofString "\\x" ++ Text.hex 2 b.toNat

/-- A byte string. -/
def shownBytes (bs : List UInt8) : Text :=
  let q := if bs.contains 0x27 && !bs.contains 0x22 then '"' else '\''
  [.char 'b', .char q] ++ bs.flatMap (shownByte q) ++ [.char q]

/-- A length of time in minutes. -/
def shownMinutes (minutes : Int) : Text :=
  let days := Int.fdiv minutes 1440
  let seconds := Int.fmod minutes 1440 * 60
  let parts := (if days = 0 then [] else [Text.ofString "days=" ++ Text.ofInt days]) ++
    (if seconds = 0 then [] else [Text.ofString "seconds=" ++ Text.ofInt seconds])
  Text.ofString "datetime.timedelta(" ++ Text.join (Text.ofString ", ") parts ++ Text.ofString ")"

/-- A moment: seconds and microseconds only where they are not zero. -/
def shownMoment (m : Moment) : Text :=
  let numbers := [m.date.year, m.date.month, m.date.day, m.hour, m.minute] ++
    (if m.micros ≠ 0 then [m.second, m.micros] else if m.second ≠ 0 then [m.second] else [])
  let zone := match m.offset with
    | none => []
    | some 0 => [Text.ofString "tzinfo=datetime.timezone.utc"]
    | some n => [Text.ofString "tzinfo=datetime.timezone(" ++ shownMinutes n ++ Text.ofString ")"]
  Text.ofString "datetime.datetime(" ++ Text.join (Text.ofString ", ") (numbers.map Text.ofNat ++ zone) ++
    Text.ofString ")"

/-- A date. -/
def shownDate (d : Date) : Text :=
  Text.ofString "datetime.date(" ++
    Text.join (Text.ofString ", ") ([d.year, d.month, d.day].map Text.ofNat) ++ Text.ofString ")"

mutual

/-- A value inside another one. -/
def shown : Value → Text
  | null => Text.ofString "None"
  | bool true => Text.ofString "True"
  | bool false => Text.ofString "False"
  | int n => Text.ofInt n
  | float x => x.render
  | text t => t.quoted
  | bytes bs => shownBytes bs
  | date d => shownDate d
  | moment m => shownMoment m
  | list items => Text.ofString "[" ++ shownItems items ++ Text.ofString "]"
  | pair a b => Text.ofString "(" ++ shown a ++ Text.ofString ", " ++ shown b ++ Text.ofString ")"
  | set [] => Text.ofString "set()"
  | set items => [.char '{'] ++ shownItems items ++ [.char '}']
  | map entries => [.char '{'] ++ shownEntries entries ++ [.char '}']
  | enclosing _ true => [.char '{'] ++ Text.ofString "..." ++ [.char '}']
  | enclosing _ false => Text.ofString "[...]"

/-- Items with commas between them. -/
def shownItems : List Value → Text
  | [] => []
  | [v] => shown v
  | v :: w :: rest => shown v ++ Text.ofString ", " ++ shownItems (w :: rest)

/-- Entries with commas between them. -/
def shownEntries : List (Value × Value) → Text
  | [] => []
  | [(k, v)] => shown k ++ Text.ofString ": " ++ shown v
  | (k, v) :: e :: rest =>
    shown k ++ Text.ofString ": " ++ shown v ++ Text.ofString ", " ++ shownEntries (e :: rest)

end

/-- A value on its own: text stays as it is, dates and moments take their usual form. -/
def display : Value → Text
  | text t => t
  | date d => d.render
  | moment m => (m.render).map fun s => if s = .char 'T' then .char ' ' else s
  | v => v.shown

end LogHarvest.Value

namespace LogHarvest.Json

/-- A JSON value inside another one. -/
def shown (v : Json) : Text := (Value.ofJson v).shown

/-- A JSON value on its own. -/
def display (v : Json) : Text := (Value.ofJson v).display

end LogHarvest.Json
