import LogHarvest.Archive.Frame
import LogHarvest.Platform

/-!
# The codec of stored blocks

The plainest codec that keeps to the format, for a program that brings along no other. It writes one frame of blocks
that hold their bytes as they are, and knows no entropy code.
-/

namespace LogHarvest

namespace Frame

/-- The header of a block. -/
def blockHeader (last : Bool) (kind : BlockKind) (size : Nat) : Bytes :=
  toLittleEndian 3 ((if last then 1 else 0) + 2 * kind.code + 8 * size)

/-- The blocks of a content. -/
def blocks (data : Bytes) : Bytes :=
  if data.length ≤ blockLimit then blockHeader true .raw data.length ++ data
  else blockHeader false .raw blockLimit ++ data.take blockLimit ++ blocks (data.drop blockLimit)
termination_by data.length
decreasing_by simp only [List.length_drop]; unfold blockLimit at *; omega

/-- The header of a written frame: neither content size nor checksum, and a window of four blocks. -/
def writtenHeader : Bytes := [0x00, 0x48]

/-- The frame of a content. -/
def stored (data : Bytes) : Bytes := magic ++ writtenHeader ++ blocks data

/-- Takes every coded block for a broken one. -/
def noCode : BlockDecoder := fun _ _ _ => .error (Text.ofString "Data corruption detected")

end Frame

/-- The codec of stored blocks. -/
def Codec.stored : Codec where
  compress data := .ok (Frame.stored data)
  decompress data := (Frame.readStream Frame.noCode data).mapError .frame

end LogHarvest
