import LogHarvest.Number.Binary64
import LogHarvest.Text.Basic

/-!
# The shortest decimal text of a number

A finite number is written with the fewest digits that read back as the same number, and of those with the nearest.
The numbers that read back as `m · 2 ^ e` form an interval around it, whose ends belong to it exactly if `m` is even.
The grids `10 ^ p` are tried from the coarse to the fine: on each only the two points next to the number matter, and
the first grid with a point in the interval has the fewest digits.
-/

namespace LogHarvest

/-- A decimal number `digits · 10 ^ exponent`. -/
structure Decimal where
  digits : Nat
  exponent : Int
deriving DecidableEq, Repr

namespace Shortest

/-- The interval around `m · 2 ^ e`, in quarters of its last place `2 ^ (e - 2)`. Below a power of two the
neighbour is nearer. -/
structure Interval where
  low : Nat
  middle : Nat
  high : Nat
  closed : Bool

/-- The numbers that round to `m · 2 ^ e`. -/
def interval (m : Nat) (e : Int) : Interval where
  low := if m = Nat.pow 2 52 ∧ -1074 < e then 4 * m - 1 else 4 * m - 2
  middle := 4 * m
  high := 4 * m + 2
  closed := m % 2 = 0

/-- Whether `x / unit` lies in the interval. -/
def Interval.holds (i : Interval) (x unit : Nat) : Bool :=
  if i.closed then i.low * unit ≤ x && x ≤ i.high * unit else i.low * unit < x && x < i.high * unit

/-- The point of the grid `10 ^ p` that reads back, the nearer if two do. `q` is the exponent of the quarter. -/
def onGrid (i : Interval) (q p : Int) : Option Nat :=
  let tens := Nat.pow 10 p.toNat * Nat.pow 2 (-q).toNat
  let twos := Nat.pow 2 q.toNat * Nat.pow 10 (-p).toNat
  let below := i.middle * twos / tens
  let down := i.middle * twos - below * tens
  let up := (below + 1) * tens - i.middle * twos
  match below ≠ 0 && i.holds (below * tens) twos, i.holds ((below + 1) * tens) twos with
  | true, true =>
    if down < up then some below else if up < down then some (below + 1) else some (below + below % 2)
  | true, false => some below
  | false, true => some (below + 1)
  | false, false => none

/-- The first of the grids `10 ^ p`, `10 ^ (p - 1)`, … with a point that reads back; the last one counts anyway. -/
def firstGrid (i : Interval) (q p : Int) : Nat → Decimal
  | 0 =>
    let tens := Nat.pow 10 p.toNat * Nat.pow 2 (-q).toNat
    let twos := Nat.pow 2 q.toNat * Nat.pow 10 (-p).toNat
    ⟨i.middle * twos / tens, p⟩
  | n + 1 =>
    match onGrid i q p with
    | some d => ⟨d, p⟩
    | none => firstGrid i q (p - 1) n

/-- The shortest decimal of `m · 2 ^ e` for a positive mantissa. Seventeen digits suffice, and the first grid is at
most three places too coarse. -/
def decimal (m : Nat) (e : Int) : Decimal :=
  let exponent := Int.fdiv (((4 * m).log2 + (e - 2)) * 30103) 100000
  firstGrid (interval m e) (e - 2) (exponent + 2) 21

end Shortest

/-- How a decimal is laid out: positional between two exponents, scientific outside. -/
structure DecimalLayout where
  /-- The least exponent of the first digit that is written positionally. -/
  positionalFrom : Int
  /-- The least exponent above it that is not. -/
  positionalTo : Int
  /-- The least number of digits of a written exponent. -/
  exponentDigits : Nat

/-- The text of a decimal. A positional one always has a point. -/
def Decimal.render (layout : DecimalLayout) (d : Decimal) : Text :=
  let digits := Text.ofNat d.digits
  let zeros (n : Int) : Text := List.replicate n.toNat (.char '0')
  let point : Int := digits.length + d.exponent
  if layout.positionalFrom < point && point ≤ layout.positionalTo then
    if 0 ≤ d.exponent then digits ++ zeros d.exponent ++ Text.ofString ".0"
    else if 0 < point then digits.take point.toNat ++ [.char '.'] ++ digits.drop point.toNat
    else Text.ofString "0." ++ zeros (-point) ++ digits
  else
    let fraction := if digits.length ≤ 1 then [] else .char '.' :: digits.drop 1
    let exponent := point - 1
    digits.take 1 ++ fraction ++ [.char 'e', .char (if exponent < 0 then '-' else '+')] ++
      Text.padded layout.exponentDigits exponent.natAbs

/-- Numbers from `0.0001` to below `10 ^ 16` are positional, and an exponent has at least two digits. -/
def Binary64.layout : DecimalLayout := ⟨-4, 16, 2⟩

/-- The text of a number. -/
def Binary64.render : Binary64 → Text
  | .nan => Text.ofString "nan"
  | .infinite s => Text.ofString (if s then "-inf" else "inf")
  | .finite s m e =>
    let body := if m = 0 then Text.ofString "0.0" else (Shortest.decimal m e).render Binary64.layout
    if s then .char '-' :: body else body

end LogHarvest
