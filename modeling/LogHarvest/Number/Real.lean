import LogHarvest.Number.Binary64
import LogHarvest.Number.Integer

/-!
# Reading real numbers

The spelling of a real number: white space, a sign, then digits with an optional point and exponent, or one of the
words `inf`, `infinity` and `nan` in any case, and white space again. Digits may be of any script, and single
underscores may stand between two of them.
-/

namespace LogHarvest.Real

/-- A run of digits: how many there are, their value, and what follows. -/
def takeDigits : Text → Nat × Nat × Text
  | t =>
    let run := t.takeWhile fun s => (Text.decimal? s).isSome
    (run.length, Integer.valueOf 10 run, t.drop run.length)

/-- An exponent, or `0` where there is none. A letter without digits is no exponent. -/
def readExponent (t : Text) : Option (Int × Text) :=
  match t with
  | .char 'e' :: r | .char 'E' :: r =>
    let (negative, r) := Integer.splitSign r
    let (count, value, r) := takeDigits r
    if count = 0 then none else some (if negative then -value else value, r)
  | _ => some (0, t)

/-- Digits with an optional point and exponent, up to the end of the text. -/
def readDecimal (negative : Bool) (t : Text) : Option Binary64 :=
  let (wholeCount, whole, r) := takeDigits t
  let (fractionCount, fraction, r) := match r with
    | .char '.' :: r => takeDigits r
    | r => (0, 0, r)
  if wholeCount + fractionCount = 0 then none else
  match readExponent r with
  | some (e, []) =>
    some (Binary64.ofDecimal negative (whole * Nat.pow 10 fractionCount + fraction) (e - fractionCount))
  | _ => none

/-- Whether each underscore stands between two digits. -/
def wellSeparated (afterDigit : Bool) : Text → Bool
  | [] => true
  | [s] => s ≠ .char '_'
  | s :: next :: r =>
    (s ≠ .char '_' || (afterDigit && (Text.decimal? next).isSome)) &&
      wellSeparated (Text.decimal? s).isSome (next :: r)

/-- Reads a real number. -/
def read (text : Text) : Option Binary64 :=
  let t := Text.trim text
  if !wellSeparated false t then none else
  let (negative, body) := Integer.splitSign (t.filter (· ≠ .char '_'))
  let word := Text.lowerAscii body
  if word = Text.ofString "inf" ∨ word = Text.ofString "infinity" then some (.infinite negative)
  else if word = Text.ofString "nan" then some .nan
  else readDecimal negative body

end LogHarvest.Real
