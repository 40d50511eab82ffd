/-!
# Binary floating point

IEEE 754 binary64 numbers as exact data: a finite number is `± mantissa · 2 ^ exponent`. Every operation computes the
exact rational result in `Nat` and rounds once, to the nearest number and to the even mantissa on a tie.
-/

namespace LogHarvest

/-- A binary64 number. A finite one made by `Binary64.ofRatio` has a mantissa below `2 ^ 53`, an exponent of at
least `-1074`, and a mantissa of at least `2 ^ 52` unless the exponent is `-1074`. -/
inductive Binary64
  | nan
  | infinite (negative : Bool)
  | finite (negative : Bool) (mantissa : Nat) (exponent : Int)
deriving DecidableEq, Repr, Inhabited

namespace Binary64

/-- The quotient rounded to the nearest natural number, a tie to the even one. -/
def roundDiv (num den : Nat) : Nat :=
  let q := num / den
  let r := num % den
  if 2 * r < den then q else if den < 2 * r then q + 1 else q + q % 2

/-- `num / (den · 2 ^ e)` as numerator and denominator. -/
def scaleDown (num den : Nat) (e : Int) : Nat × Nat :=
  if 0 ≤ e then (num, den * Nat.pow 2 e.toNat) else (num * Nat.pow 2 (-e).toNat, den)

/-- The number nearest to `± num / den`, infinite beyond the largest finite one. -/
def ofRatio (negative : Bool) (num den : Nat) : Binary64 :=
  if num = 0 then .finite negative 0 (-1074) else
  let e : Int := (num.log2 : Int) - den.log2 - 52
  let (n, d) := scaleDown num den e
  let e := max (if n < d * Nat.pow 2 52 then e - 1 else e) (-1074)
  let (n, d) := scaleDown num den e
  let m := roundDiv n d
  let (m, e) := if m = Nat.pow 2 53 then (Nat.pow 2 52, e + 1) else (m, e)
  if 971 < e then .infinite negative else .finite negative m e

/-- The number nearest to `± digits · 10 ^ exponent`. Far beyond both ends of the range no power is computed. -/
def ofDecimal (negative : Bool) (digits : Nat) (exponent : Int) : Binary64 :=
  if digits = 0 then .finite negative 0 (-1074)
  else if 400 < exponent then .infinite negative
  else if exponent + digits.log2 + 1 < -400 then .finite negative 0 (-1074)
  else if 0 ≤ exponent then ofRatio negative (digits * Nat.pow 10 exponent.toNat) 1
  else ofRatio negative digits (Nat.pow 10 (-exponent).toNat)

/-- The number nearest to a natural number. -/
def ofNat (n : Nat) : Binary64 := ofRatio false n 1

/-- The number with its sign changed. -/
def neg : Binary64 → Binary64
  | nan => nan
  | infinite s => .infinite !s
  | finite s m e => .finite (!s) m e

/-- The rounded product. -/
def mul : Binary64 → Binary64 → Binary64
  | nan, _ | _, nan => nan
  | infinite s, infinite t => .infinite (s != t)
  | infinite s, finite t m _ | finite t m _, infinite s => if m = 0 then .nan else .infinite (s != t)
  | finite s m e, finite t n f =>
    let p := scaleDown (m * n) 1 (-(e + f))
    ofRatio (s != t) p.1 p.2

/-- The rounded sum. A zero sum of two numbers of unlike sign is positive. -/
def add : Binary64 → Binary64 → Binary64
  | nan, _ | _, nan => nan
  | infinite s, infinite t => if s = t then .infinite s else .nan
  | infinite s, finite .. | finite .., infinite s => .infinite s
  | finite s m e, finite t n f =>
    let low := min e f
    let a : Int := m * Nat.pow 2 (e - low).toNat
    let b : Int := n * Nat.pow 2 (f - low).toNat
    let sum := (if s then -a else a) + (if t then -b else b)
    let p := scaleDown sum.natAbs 1 (-low)
    ofRatio (if sum = 0 then s && t else sum < 0) p.1 p.2

/-- The number as an integer, if it is one. -/
def toInt? : Binary64 → Option Int
  | finite s m e =>
    let value : Option Nat :=
      if 0 ≤ e then some (m * Nat.pow 2 e.toNat)
      else if m % Nat.pow 2 (-e).toNat = 0 then some (m / Nat.pow 2 (-e).toNat) else none
    value.map fun n => if s then -(n : Int) else n
  | _ => none

/-- The number cut off behind the point, if it is finite. -/
def truncate? : Binary64 → Option Int
  | finite s m e =>
    let value := if 0 ≤ e then m * Nat.pow 2 e.toNat else m / Nat.pow 2 (-e).toNat
    some (if s then -(value : Int) else value)
  | _ => none

/-- Numeric equality: both zeros are equal, and NaN equals nothing. -/
def equals : Binary64 → Binary64 → Bool
  | nan, _ | _, nan => false
  | infinite s, infinite t => s == t
  | finite s m e, finite t n f => m == n && (m == 0 || (s == t && e == f))
  | _, _ => false

end Binary64

end LogHarvest
