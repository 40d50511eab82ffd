import LogHarvest.Archive.Checksum
import LogHarvest.Archive.Fault

/-!
# Streams of frames

A Zstandard stream is any number of frames, one behind the other, and skippable frames may stand among them. A frame
is a header, blocks and perhaps a checksum. Blocks hold their bytes as they are, or one byte to be repeated, or their
content in an entropy code. Only the code is left open here: whoever reads a stream brings along what decodes a block.

The stream may end only between two frames.
-/

namespace LogHarvest.Frame

namespace Fault

/-- The faults of a frame that is broken. -/
def corrupt : Fault := .broken (Text.ofString "Data corruption detected")

@[inherit_doc corrupt]
def unknownMagic : Fault := .broken (Text.ofString "Unknown frame descriptor")

@[inherit_doc corrupt]
def reservedBit : Fault := .broken (Text.ofString "Unsupported frame parameter")

@[inherit_doc corrupt]
def windowTooLarge : Fault := .broken (Text.ofString "Frame requires too much memory for decoding")

@[inherit_doc corrupt]
def dictionary : Fault := .broken (Text.ofString "Dictionary mismatch")

@[inherit_doc corrupt]
def checksum : Fault := .broken (Text.ofString "Restored data doesn't match checksum")

end Fault

/-- The bytes that every frame begins with. -/
def magic : Bytes := [0x28, 0xb5, 0x2f, 0xfd]

/-- The bytes that a skippable frame begins with; the low half of the first one is free. -/
def skippableMagic : Bytes := [0x50, 0x2a, 0x4d, 0x18]

/-- The most bytes of a block. -/
def blockLimit : Nat := 131072

/-- The first `n` bytes and the rest. -/
def takeBytes (n : Nat) (data : Bytes) : Except Fault (Bytes × Bytes) :=
  if data.length < n then .error .truncated else .ok (data.take n, data.drop n)

/-! ## The header -/

/-- What the header of a frame says. -/
structure Header where
  contentSize : Option Nat
  window : Nat
  dictionary : Nat
  hasChecksum : Bool
deriving Repr

/-- The largest window that a reader makes room for. -/
def windowLimit : Nat := Nat.pow 2 27 + 1

/-- The window that a byte stands for: a power of two and some eighths of it. -/
def windowOf (b : Nat) : Nat :=
  let base := Nat.pow 2 (10 + b / 8)
  base + base / 8 * (b % 8)

/-- The width of the content size in a header. -/
def contentSizeWidth (flag : Nat) (single : Bool) : Nat :=
  match flag with
  | 0 => if single then 1 else 0
  | 1 => 2
  | 2 => 4
  | _ => 8

/-- The width of the dictionary's number in a header. -/
def dictionaryWidth : Nat → Nat
  | 0 => 0
  | 1 => 1
  | 2 => 2
  | _ => 4

/-- Reads the header behind the magic bytes. The whole of it must be there before any part is looked at. -/
def readHeader : Bytes → Except Fault (Header × Bytes)
  | [] => .error .truncated
  | first :: data => do
    let d := first.toNat
    let single := d / 32 % 2 = 1
    let sizeWidth := contentSizeWidth (d / 64) single
    let windowWidth := if single then 0 else 1
    let (window, rest) ← takeBytes windowWidth data
    let (dictionary, rest) ← takeBytes (dictionaryWidth (d % 4)) rest
    let (size, rest) ← takeBytes sizeWidth rest
    if d / 8 % 2 = 1 then .error .reservedBit
    let contentSize :=
      if sizeWidth = 0 then none
      else some (littleEndian size + if sizeWidth = 2 then 256 else 0)
    let window := if single then contentSize.getD 0 else windowOf (littleEndian window)
    let header : Header := ⟨contentSize, window, littleEndian dictionary, d / 4 % 2 = 1⟩
    if header.dictionary ≠ 0 then .error .dictionary
    if windowLimit < header.window then .error .windowTooLarge
    return (header, rest)

/-- The most bytes of a block in a frame. -/
def Header.blockLimit (h : Header) : Nat := min h.window Frame.blockLimit

/-! ## Blocks -/

/-- The kinds of blocks. -/
inductive BlockKind
  | raw
  | repeated
  | coded
  | reserved
deriving DecidableEq, Repr

/-- The number of a kind. -/
def BlockKind.code : BlockKind → Nat
  | raw => 0
  | repeated => 1
  | coded => 2
  | reserved => 3

/-- The kind of a number. -/
def BlockKind.ofCode : Nat → BlockKind
  | 0 => raw
  | 1 => repeated
  | 2 => coded
  | _ => reserved

/-- A block: whether it is the last one of its frame, all its bytes, and its content. -/
structure Block where
  last : Bool
  bytes : Bytes
  content : Bytes

/-- What decodes a block: by the header of its frame and all bytes of the blocks before it, its content or what is
wrong with it. -/
abbrev BlockDecoder := Header → Bytes → Bytes → Except Text Bytes

/-- Reads what stands behind the header of a block with at most `limit` bytes: its bytes, and its content. -/
def readPayload (limit : Nat) (decode : Bytes → Except Text Bytes) (kind : BlockKind) (size : Nat) (data : Bytes) :
    Except Fault ((Bytes × Bytes) × Bytes) :=
  match kind with
  | .raw => do
    if limit < size then .error .corrupt
    let (bytes, rest) ← takeBytes size data
    return ((bytes, bytes), rest)
  | .repeated => do
    let (bytes, rest) ← takeBytes 1 data
    if limit < size then .error .corrupt
    return ((bytes, bytes.flatMap (List.replicate size)), rest)
  | .coded => do
    if limit < size then .error .corrupt
    let (bytes, rest) ← takeBytes size data
    let content ← (decode bytes).mapError .broken
    return ((bytes, content), rest)
  | .reserved => .error .corrupt

/-- Reads a block of at most `limit` bytes. -/
def readBlock (limit : Nat) (decode : Bytes → Except Text Bytes) (data : Bytes) : Except Fault (Block × Bytes) := do
  let (header, rest) ← takeBytes 3 data
  let n := littleEndian header
  let ((bytes, content), rest) ← readPayload limit decode (.ofCode (n / 2 % 4)) (n / 8) rest
  return (⟨n % 2 = 1, header ++ bytes, content⟩, rest)

/-- Reads blocks up to the last one, with the bytes of those before them: their content and what follows. -/
def readBlocks (limit : Nat) (decode : Bytes → Bytes → Except Text Bytes) (before data : Bytes) :
    Except Fault (Bytes × Bytes) :=
  match readBlock limit (decode before) data with
  | .error fault => .error fault
  | .ok (block, rest) =>
    if block.last then .ok (block.content, rest)
    else if _h : rest.length < data.length then
      match readBlocks limit decode (before ++ block.bytes) rest with
      | .error fault => .error fault
      | .ok (more, rest) => .ok (block.content ++ more, rest)
    else .error .corrupt
termination_by data.length

/-! ## Frames -/

/-- Reads the checksum behind a content. -/
def readChecksum (content data : Bytes) : Except Fault Bytes := do
  let (sum, rest) ← takeBytes 4 data
  if littleEndian sum = checksum content then return rest else .error .checksum

/-- Reads a frame behind its magic bytes. -/
def readContent (decode : BlockDecoder) (data : Bytes) : Except Fault (Bytes × Bytes) := do
  let (header, rest) ← readHeader data
  let (content, rest) ← readBlocks header.blockLimit (decode header) [] rest
  if header.contentSize.any (· ≠ content.length) then .error .corrupt
  else if header.hasChecksum then return (content, ← readChecksum content rest)
  else return (content, rest)

/-- Passes over a skippable frame behind its magic bytes. -/
def skipContent (data : Bytes) : Except Fault (Bytes × Bytes) := do
  let (size, rest) ← takeBytes 4 data
  let (_, rest) ← takeBytes (littleEndian size) rest
  return ([], rest)

/-- The first byte of a skippable frame with its free half cleared. -/
def clearFree : Bytes → Bytes
  | [] => []
  | b :: r => UInt8.ofNat (b.toNat / 16 * 16) :: r

/-- Reads a frame of either kind. Too few bytes for the magic are told apart from wrong ones. -/
def readFrame (decode : BlockDecoder) (data : Bytes) : Except Fault (Bytes × Bytes) :=
  let start := data.take 4
  if start = magic then readContent decode (data.drop 4)
  else if clearFree start = skippableMagic then skipContent (data.drop 4)
  else if start.length < 4 ∧ (start.isPrefixOf magic ∨ (clearFree start).isPrefixOf skippableMagic) then
    .error .truncated
  else .error .unknownMagic

/-! ## Streams -/

/-- The contents of all frames, one after another. -/
def readStream (decode : BlockDecoder) (data : Bytes) : Except Fault Bytes :=
  if data = [] then .ok []
  else match readFrame decode data with
    | .error fault => .error fault
    | .ok (content, rest) =>
      if _h : rest.length < data.length then
        match readStream decode rest with
        | .error fault => .error fault
        | .ok more => .ok (content ++ more)
      else .error .corrupt
termination_by data.length

end LogHarvest.Frame
