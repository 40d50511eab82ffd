import LogHarvest.Archive.Stored
import Mathlib.Algebra.Ring.Nat
import Mathlib.Data.List.Basic

/-!
# Stored blocks come back

The reader takes a frame of stored blocks apart as it was put together: header, blocks. Each part is
read with something behind it, so that a frame is read no matter what follows.
-/

namespace LogHarvest.Frame

/-! ## Numbers -/

@[simp] theorem length_toLittleEndian (width n : Nat) :
    (toLittleEndian width n).length = width := by
  induction width generalizing n with
  | zero => rfl
  | succ width ih => simp [toLittleEndian, ih]

theorem littleEndian_toLittleEndian {width n : Nat} (h : n < 256 ^ width) :
    littleEndian (toLittleEndian width n) = n := by
  induction width generalizing n with
  | zero =>
    rw [Nat.pow_zero] at h
    simp only [toLittleEndian, littleEndian]
    omega
  | succ width ih =>
    -- the first byte is the remainder, the rest stands for the quotient
    have hrest : n / 256 < 256 ^ width := by
      rw [Nat.pow_succ] at h
      exact Nat.div_lt_of_lt_mul (by rwa [Nat.mul_comm])
    have hbyte : (UInt8.ofNat (n % 256)).toNat = n % 256 := by
      rw [UInt8.toNat_ofNat']
      omega
    simp only [toLittleEndian, littleEndian, hbyte, ih hrest]
    omega

/-! ## The header -/

@[simp] theorem takeBytes_zero (data : Bytes) : takeBytes 0 data = .ok ([], data) := by
  simp [takeBytes]

@[simp] theorem takeBytes_one_cons (b : UInt8) (data : Bytes) :
    takeBytes 1 (b :: data) = .ok ([b], data) := by
  simp [takeBytes]

theorem takeBytes_append {n : Nat} {taken : Bytes} (h : taken.length = n) (rest : Bytes) :
    takeBytes n (taken ++ rest) = .ok (taken, rest) := by
  rw [takeBytes, if_neg (by rw [List.length_append]; omega), List.take_left' h, List.drop_left' h]

/-- The window of a written frame is larger than any block. -/
theorem readHeader_writtenHeader (rest : Bytes) :
    readHeader (writtenHeader ++ rest) = .ok (⟨none, 4 * blockLimit, 0, false⟩, rest) := by
  show readHeader (0x00 :: 0x48 :: rest) = _
  simp [readHeader, contentSizeWidth, dictionaryWidth, windowOf, littleEndian, windowLimit,
    blockLimit, bind, Except.bind, pure, Except.pure]

/-! ## Blocks -/

variable (decode : Bytes → Bytes → Except Text Bytes)

/-- The header of a raw block is read as its number. -/
theorem littleEndian_blockHeader (last : Bool) {size : Nat} (h : size ≤ blockLimit) :
    littleEndian (blockHeader last .raw size) = (if last then 1 else 0) + 8 * size := by
  unfold blockLimit at h
  rw [blockHeader, littleEndian_toLittleEndian]
  · simp [BlockKind.code]
  · simp only [BlockKind.code]
    split <;> omega

theorem readBlock_blockHeader (before : Bytes) (last : Bool) (content rest : Bytes) {limit : Nat}
    (hlimit : content.length ≤ limit) (hsize : content.length ≤ blockLimit) :
    readBlock limit (decode before) (blockHeader last .raw content.length ++ content ++ rest) =
      .ok (⟨last, blockHeader last .raw content.length ++ content, content⟩, rest) := by
  have hnumber := littleEndian_blockHeader last hsize
  have hlast : (decide (littleEndian (blockHeader last .raw content.length) % 2 = 1)) = last := by
    rw [hnumber]
    cases last with
    | true => simp; omega
    | false => simp; omega
  have hkind : littleEndian (blockHeader last .raw content.length) / 2 % 4 = 0 := by
    rw [hnumber]
    split <;> omega
  have hcount : littleEndian (blockHeader last .raw content.length) / 8 = content.length := by
    rw [hnumber]
    split <;> omega
  have hheader : takeBytes 3 (blockHeader last .raw content.length ++ (content ++ rest)) =
      .ok (blockHeader last .raw content.length, content ++ rest) :=
    takeBytes_append (length_toLittleEndian 3 _) _
  rw [List.append_assoc, readBlock, hheader]
  simp only [bind, Except.bind, hkind, hcount, hlast, BlockKind.ofCode, readPayload]
  rw [if_neg (by omega)]
  simp only [pure, Except.pure, takeBytes_append rfl]

theorem readBlocks_blocks (before data rest : Bytes) :
    readBlocks blockLimit decode before (blocks data ++ rest) = .ok (data, rest) := by
  fun_induction blocks data generalizing before with
  | case1 data h =>
    rw [readBlocks.eq_def, readBlock_blockHeader decode before true data rest h h]
    rfl
  | case2 data h ih =>
    have hlength : (data.take blockLimit).length = blockLimit := by
      rw [List.length_take]
      omega
    have hblock := readBlock_blockHeader decode before false (data.take blockLimit)
      (blocks (data.drop blockLimit) ++ rest)
      (Nat.le_of_eq hlength) (Nat.le_of_eq hlength)
    rw [hlength, ← List.append_assoc] at hblock
    have hless : (blocks (data.drop blockLimit) ++ rest).length <
        (blockHeader false .raw blockLimit ++ data.take blockLimit ++ blocks
          (data.drop blockLimit) ++ rest).length := by
      simp [blockHeader]
      omega
    -- a block that is not the last one is read on its own, and the reader goes on behind it
    rw [readBlocks.eq_def, hblock]
    simp only [Bool.false_eq_true, if_false, hless, dif_pos, ih, List.take_append_drop]

/-! ## The frame -/

theorem readContent_written (decode : BlockDecoder) (data rest : Bytes) :
    readContent decode (writtenHeader ++ blocks data ++ rest) = .ok (data, rest) := by
  rw [List.append_assoc, readContent, readHeader_writtenHeader]
  have hlimit : (⟨none, 4 * blockLimit, 0, false⟩ : Header).blockLimit = blockLimit := rfl
  simp only [bind, Except.bind, hlimit, readBlocks_blocks]
  rfl

end LogHarvest.Frame
