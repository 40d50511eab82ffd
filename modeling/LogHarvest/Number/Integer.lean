import LogHarvest.Text.Blank
import LogHarvest.Text.Digit
import LogHarvest.Text.Quoted

/-!
# Reading integers

The spelling of an integer: white space, a sign, for the bases 2, 8 and 16 an optional mark such as `0x`, digits of any
script with single underscores between them, white space. A spelling in base ten has at most `4300` digits.
-/

namespace LogHarvest.Integer

/-- Why a text is not read as an integer. -/
inductive Fault
  | notSpelled (base : Nat) (text : Text)
  | tooLong (digits : Nat)
deriving DecidableEq, Repr

/-- The most digits of an integer in base ten. -/
def digitLimit : Nat := 4300

/-- The wording of a fault. The quoted text is cut after two hundred symbols. -/
def Fault.message : Fault → Text
  | notSpelled base text =>
    Text.ofString "invalid literal for int() with base " ++ Text.ofNat base ++ Text.ofString ": " ++
      text.quoted.take 200
  | tooLong digits =>
    Text.ofString "Exceeds the limit (" ++ Text.ofNat digitLimit ++
      Text.ofString " digits) for integer string conversion: value has " ++ Text.ofNat digits ++
      Text.ofString " digits; use sys.set_int_max_str_digits() to increase the limit"

/-- The value of a symbol as a digit of the base. -/
def digitIn (base : Nat) (s : Symbol) : Option Nat :=
  let value := match Text.decimal? s with
    | some d => some d
    | none => match s with
      | .char c =>
        if 'a' ≤ c ∧ c ≤ 'z' then some (c.toNat - 'a'.toNat + 10)
        else if 'A' ≤ c ∧ c ≤ 'Z' then some (c.toNat - 'A'.toNat + 10)
        else none
      | .half _ => none
  value.filter (· < base)

/-- A digit of the base or an underscore. -/
def inRun (base : Nat) (s : Symbol) : Bool := s = .char '_' || (digitIn base s).isSome

/-- Whether underscores stand only between two digits, given whether a digit came just before. -/
def wellSeparated (afterDigit : Bool) : Text → Bool
  | [] => afterDigit
  | s :: r => if s = .char '_' then afterDigit && wellSeparated false r else wellSeparated true r

/-- The value of a run of digits, underscores skipped. -/
def valueOf (base : Nat) (run : Text) : Nat :=
  run.foldl (fun n s => match digitIn base s with
    | some d => n * base + d
    | none => n) 0

/-- A sign, if there is one, and what follows it. -/
def splitSign : Text → Bool × Text
  | .char '-' :: r => (true, r)
  | .char '+' :: r => (false, r)
  | t => (false, t)

/-- What follows the mark of the base. One underscore may stand behind the mark. -/
def dropMark (base : Nat) (t : Text) : Text :=
  let marked := match base, t with
    | 2, .char '0' :: .char 'b' :: r | 2, .char '0' :: .char 'B' :: r
    | 8, .char '0' :: .char 'o' :: r | 8, .char '0' :: .char 'O' :: r
    | 16, .char '0' :: .char 'x' :: r | 16, .char '0' :: .char 'X' :: r => some r
    | _, _ => none
  match marked with
  | some (.char '_' :: r) => r
  | some r => r
  | none => t

/-- Reads an integer in the given base. Only base ten has a limit on the number of digits. -/
def readBase (base : Nat) (text : Text) : Except Fault Int :=
  let (negative, body) := splitSign (text.dropWhile Text.isBlank)
  let body := dropMark base body
  let run := body.takeWhile (inRun base)
  let rest := body.dropWhile (inRun base)
  let count := (run.filter (· ≠ .char '_')).length
  if !wellSeparated false run then .error (.notSpelled base text)
  else if base = 10 ∧ digitLimit < count then .error (.tooLong count)
  else if !rest.all Text.isBlank then .error (.notSpelled base text)
  else
    let n : Int := valueOf base run
    .ok (if negative then -n else n)

/-- Reads an integer in base ten. -/
def read (text : Text) : Except Fault Int := readBase 10 text

end LogHarvest.Integer
