import LogHarvest.Text.Basic

/-!
# Blank characters

The white space that may surround a number. In ASCII these are tab, the line ends, vertical tab, form feed and
space; beyond ASCII they are the characters with the Unicode property White_Space.
-/

namespace LogHarvest.Text

/-- Ranges of the white space beyond ASCII. -/
def wideBlanks : List (Nat × Nat) :=
  [(0x85, 0x85), (0xA0, 0xA0), (0x1680, 0x1680), (0x2000, 0x200A), (0x2028, 0x2029), (0x202F, 0x202F),
    (0x205F, 0x205F), (0x3000, 0x3000)]

/-- White space around a number. -/
def isBlank (s : Symbol) : Bool :=
  let n := s.code
  n == 0x20 || (0x09 ≤ n && n ≤ 0x0D) || wideBlanks.any fun r => r.1 ≤ n && n ≤ r.2

/-- The text without white space at its two ends. -/
def trim (t : Text) : Text :=
  ((t.dropWhile isBlank).reverse.dropWhile isBlank).reverse

end LogHarvest.Text
