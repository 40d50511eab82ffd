import LogHarvest.Text.Utf8

/-!
# The checksum of a frame

A frame may end with the low half of a 64-bit hash of its content. The hash mixes four lanes of eight bytes each and
then whatever is left over; all arithmetic is modulo 2 to the 64.
-/

namespace LogHarvest.Frame

/-- The number that bytes spell, least significant first. -/
def littleEndian : Bytes → Nat
  | [] => 0
  | b :: r => b.toNat + 256 * littleEndian r

/-- The `width` lowest bytes of a number, least significant first. -/
def toLittleEndian : Nat → Nat → Bytes
  | 0, _ => []
  | width + 1, n => UInt8.ofNat (n % 256) :: toLittleEndian width (n / 256)

namespace Checksum

/-- The five primes of the hash. -/
def p1 : UInt64 := 0x9E3779B185EBCA87

@[inherit_doc p1]
def p2 : UInt64 := 0xC2B2AE3D27D4EB4F

@[inherit_doc p1]
def p3 : UInt64 := 0x165667B19E3779F9

@[inherit_doc p1]
def p4 : UInt64 := 0x85EBCA77C2B2AE63

@[inherit_doc p1]
def p5 : UInt64 := 0x27D4EB2F165667C5

/-- Rotation to the left. -/
def rotate (x : UInt64) (n : UInt64) : UInt64 := (x <<< n) ||| (x >>> (64 - n))

/-- Bytes as a word. -/
def word (bytes : Bytes) : UInt64 := UInt64.ofNat (littleEndian bytes)

/-- Takes a word into a lane. -/
def mix (lane input : UInt64) : UInt64 := rotate (lane + input * p2) 31 * p1

/-- Takes a lane into the hash. -/
def merge (hash lane : UInt64) : UInt64 := (hash ^^^ mix 0 lane) * p1 + p4

/-- The four lanes. -/
structure Lanes where
  a : UInt64
  b : UInt64
  c : UInt64
  d : UInt64

/-- The lanes before anything is hashed. -/
def Lanes.start : Lanes := ⟨p1 + p2, p2, 0, 0 - p1⟩

/-- Takes 32 bytes into the lanes. -/
def Lanes.take (l : Lanes) (bytes : Bytes) : Lanes :=
  ⟨mix l.a (word (bytes.take 8)), mix l.b (word ((bytes.drop 8).take 8)),
    mix l.c (word ((bytes.drop 16).take 8)), mix l.d (word ((bytes.drop 24).take 8))⟩

/-- The hash of the lanes. -/
def Lanes.hash (l : Lanes) : UInt64 :=
  merge (merge (merge (merge (rotate l.a 1 + rotate l.b 7 + rotate l.c 12 + rotate l.d 18) l.a) l.b) l.c) l.d

/-- Takes all stripes of 32 bytes into the lanes; gives back the rest. -/
def stripes (l : Lanes) (bytes : Bytes) : Lanes × Bytes :=
  if 32 ≤ bytes.length then stripes (l.take (bytes.take 32)) (bytes.drop 32) else (l, bytes)
termination_by bytes.length
decreasing_by simp only [List.length_drop]; omega

/-- Takes the bytes that fill no stripe into the hash. -/
def tail (hash : UInt64) (bytes : Bytes) : UInt64 :=
  if 8 ≤ bytes.length then
    tail (rotate (hash ^^^ mix 0 (word (bytes.take 8))) 27 * p1 + p4) (bytes.drop 8)
  else if 4 ≤ bytes.length then
    tail (rotate (hash ^^^ (word (bytes.take 4) * p1)) 23 * p2 + p3) (bytes.drop 4)
  else match bytes with
    | [] => hash
    | b :: r => tail (rotate (hash ^^^ (b.toUInt64 * p5)) 11 * p1) r
termination_by bytes.length
decreasing_by all_goals simp_all only [List.length_drop, List.length_cons]; omega

/-- Spreads the bits of the hash. -/
def finish (hash : UInt64) : UInt64 :=
  let h := (hash ^^^ (hash >>> 33)) * p2
  let h := (h ^^^ (h >>> 29)) * p3
  h ^^^ (h >>> 32)

/-- The hash of a content. -/
def hash (bytes : Bytes) : UInt64 :=
  let (lanes, rest) := stripes .start bytes
  let h := if 32 ≤ bytes.length then lanes.hash else p5
  finish (tail (h + UInt64.ofNat bytes.length) rest)

end Checksum

/-- The checksum of a content. -/
def checksum (content : Bytes) : Nat := (Checksum.hash content).toNat % 0x100000000

end LogHarvest.Frame
