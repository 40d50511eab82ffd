import LogHarvest.Text.Basic

/-!
# Faults of a compressed stream
-/

namespace LogHarvest.Frame

/-- Why a stream cannot be decompressed: it ends too early, or a frame is broken. -/
inductive Fault
  | truncated
  | broken (detail : Text)
deriving DecidableEq, Repr

namespace Fault

/-- The wording of a fault. A stream that ends too early is no fault of a frame. -/
def message : Fault → Text
  | truncated => Text.ofString "Truncated compressed stream"
  | broken detail => Text.ofString "ZSTD decompress failed: " ++ detail

end Fault

end LogHarvest.Frame
