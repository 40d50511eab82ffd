import LogHarvest.Text.Basic

/-!
# Identifiers

A random identifier is a number of 128 bits, six of which tell that it is random, written in hexadecimal in five
groups.
-/

namespace LogHarvest.Identifier

/-- The part of a number that begins at a bit. -/
def bits (n start width : Nat) : Nat := n / Nat.pow 2 start % Nat.pow 2 width

/-- The identifier of a random number. -/
def ofRandom (n : Nat) : Text :=
  Text.join (Text.ofString "-")
    [Text.hex 8 (bits n 96 32), Text.hex 4 (bits n 80 16), Text.hex 4 (0x4000 + bits n 64 12),
      Text.hex 4 (0x8000 + bits n 48 14), Text.hex 12 (bits n 0 48)]

end LogHarvest.Identifier
