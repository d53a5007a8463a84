/-!
# XXH3 with 64-bit output

The non-cryptographic hash XXH3-64 with seed 0 and the default secret. It reads its input as
little-endian words and takes one of six ways by the length of the input:

* `hashEmpty`, `hash1to3`, `hash4to8`, `hash9to16` read the whole input at once;
* `hash17to128` and `hash129to240` fold it in pieces of 16 bytes;
* `hashLong` runs eight lanes over stripes of 64 bytes.

`xxh3` chooses among them. Bytes past the end of the input read as zero; no way reads any.
-/

namespace CodeIndex.Hash

/-- The default secret, 192 bytes. -/
def secret : ByteArray := ⟨#[
  0xb8, 0xfe, 0x6c, 0x39, 0x23, 0xa4, 0x4b, 0xbe, 0x7c, 0x01, 0x81, 0x2c, 0xf7, 0x21, 0xad, 0x1c,
  0xde, 0xd4, 0x6d, 0xe9, 0x83, 0x90, 0x97, 0xdb, 0x72, 0x40, 0xa4, 0xa4, 0xb7, 0xb3, 0x67, 0x1f,
  0xcb, 0x79, 0xe6, 0x4e, 0xcc, 0xc0, 0xe5, 0x78, 0x82, 0x5a, 0xd0, 0x7d, 0xcc, 0xff, 0x72, 0x21,
  0xb8, 0x08, 0x46, 0x74, 0xf7, 0x43, 0x24, 0x8e, 0xe0, 0x35, 0x90, 0xe6, 0x81, 0x3a, 0x26, 0x4c,
  0x3c, 0x28, 0x52, 0xbb, 0x91, 0xc3, 0x00, 0xcb, 0x88, 0xd0, 0x65, 0x8b, 0x1b, 0x53, 0x2e, 0xa3,
  0x71, 0x64, 0x48, 0x97, 0xa2, 0x0d, 0xf9, 0x4e, 0x38, 0x19, 0xef, 0x46, 0xa9, 0xde, 0xac, 0xd8,
  0xa8, 0xfa, 0x76, 0x3f, 0xe3, 0x9c, 0x34, 0x3f, 0xf9, 0xdc, 0xbb, 0xc7, 0xc7, 0x0b, 0x4f, 0x1d,
  0x8a, 0x51, 0xe0, 0x4b, 0xcd, 0xb4, 0x59, 0x31, 0xc8, 0x9f, 0x7e, 0xc9, 0xd9, 0x78, 0x73, 0x64,
  0xea, 0xc5, 0xac, 0x83, 0x34, 0xd3, 0xeb, 0xc3, 0xc5, 0x81, 0xa0, 0xff, 0xfa, 0x13, 0x63, 0xeb,
  0x17, 0x0d, 0xdd, 0x51, 0xb7, 0xf0, 0xda, 0x49, 0xd3, 0x16, 0x55, 0x26, 0x29, 0xd4, 0x68, 0x9e,
  0x2b, 0x16, 0xbe, 0x58, 0x7d, 0x47, 0xa1, 0xfc, 0x8f, 0xf8, 0xb8, 0xd1, 0x7a, 0xd0, 0x31, 0xce,
  0x45, 0xcb, 0x3a, 0x8f, 0x95, 0x16, 0x04, 0x28, 0xaf, 0xd7, 0xfb, 0xca, 0xbb, 0x4b, 0x40, 0x7e]⟩

/-! ## Words -/

/-- The byte at a position, zero past the end. -/
def byteAt (bytes : ByteArray) (i : Nat) : UInt64 :=
  if h : i < bytes.size then bytes[i].toUInt64 else 0

/-- Four bytes from a position on, the first one lowest. -/
def word32 (bytes : ByteArray) (i : Nat) : UInt64 :=
  byteAt bytes i ||| (byteAt bytes (i + 1) <<< 8) ||| (byteAt bytes (i + 2) <<< 16) |||
    (byteAt bytes (i + 3) <<< 24)

/-- Eight bytes from a position on, the first one lowest. -/
def word64 (bytes : ByteArray) (i : Nat) : UInt64 :=
  word32 bytes i ||| (word32 bytes (i + 4) <<< 32)

/-- The word with its bits turned left, for an amount between 1 and 63. -/
def rotateLeft (x : UInt64) (amount : UInt64) : UInt64 :=
  (x <<< amount) ||| (x >>> (64 - amount))

/-- The word with its eight bytes in the opposite order. -/
def swapBytes (x : UInt64) : UInt64 :=
  (List.range 8).foldl (fun acc i => (acc <<< 8) ||| ((x >>> (8 * i.toUInt64)) &&& 0xFF)) 0

/-- The two halves of the 128-bit product, combined by exclusive or. -/
def foldedProduct (x y : UInt64) : UInt64 :=
  let product := x.toNat * y.toNat
  UInt64.ofNat product ^^^ UInt64.ofNat (product / UInt64.size)

/-! ## Constants and final mixing -/

/-- A constant of the 32-bit family. -/
def prime32A : UInt64 := 0x9E3779B1

@[inherit_doc prime32A] def prime32B : UInt64 := 0x85EBCA77

@[inherit_doc prime32A] def prime32C : UInt64 := 0xC2B2AE3D

/-- A constant of the 64-bit family. -/
def prime64A : UInt64 := 0x9E3779B185EBCA87

@[inherit_doc prime64A] def prime64B : UInt64 := 0xC2B2AE3D27D4EB4F

@[inherit_doc prime64A] def prime64C : UInt64 := 0x165667B19E3779F9

@[inherit_doc prime64A] def prime64D : UInt64 := 0x85EBCA77C2B2AE63

@[inherit_doc prime64A] def prime64E : UInt64 := 0x27D4EB2F165667C5

/-- Final mixing of the two shortest ways. -/
def avalancheShort (h : UInt64) : UInt64 :=
  let h := (h ^^^ (h >>> 33)) * prime64B
  let h := (h ^^^ (h >>> 29)) * prime64C
  h ^^^ (h >>> 32)

/-- Final mixing of every way from nine bytes on. -/
def avalanche (h : UInt64) : UInt64 :=
  let h := (h ^^^ (h >>> 37)) * 0x165667919E3779F9
  h ^^^ (h >>> 32)

/-! ## Up to sixteen bytes -/

/-- The hash of no bytes. -/
def hashEmpty : UInt64 := avalancheShort (word64 secret 56 ^^^ word64 secret 64)

/-- One to three bytes: the first, the middle and the last one and the length make one word. -/
def hash1to3 (bytes : ByteArray) : UInt64 :=
  let n := bytes.size
  let combined := (byteAt bytes 0 <<< 16) ||| (byteAt bytes (n / 2) <<< 24) |||
    byteAt bytes (n - 1) ||| (n.toUInt64 <<< 8)
  avalancheShort (combined ^^^ (word32 secret 0 ^^^ word32 secret 4))

/-- Four to eight bytes: the first four and the last four, which may overlap. -/
def hash4to8 (bytes : ByteArray) : UInt64 :=
  let n := bytes.size
  let joined := word32 bytes (n - 4) + (word32 bytes 0 <<< 32)
  let h := joined ^^^ (word64 secret 8 ^^^ word64 secret 16)
  let h := (h ^^^ rotateLeft h 49 ^^^ rotateLeft h 24) * 0x9FB21C651E98DF25
  let h := (h ^^^ ((h >>> 35) + n.toUInt64)) * 0x9FB21C651E98DF25
  h ^^^ (h >>> 28)

/-- Nine to sixteen bytes: the first eight and the last eight, which may overlap. -/
def hash9to16 (bytes : ByteArray) : UInt64 :=
  let n := bytes.size
  let low := word64 bytes 0 ^^^ (word64 secret 24 ^^^ word64 secret 32)
  let high := word64 bytes (n - 8) ^^^ (word64 secret 40 ^^^ word64 secret 48)
  avalanche (n.toUInt64 + swapBytes low + high + foldedProduct low high)

/-! ## Up to 240 bytes -/

/-- Sixteen bytes from a position on, mixed with sixteen bytes of the secret. -/
def mix16 (bytes : ByteArray) (i key : Nat) : UInt64 :=
  foldedProduct (word64 bytes i ^^^ word64 secret key)
    (word64 bytes (i + 8) ^^^ word64 secret (key + 8))

/-- Pieces of sixteen bytes from both ends towards the middle, as many as the length needs. -/
def hash17to128 (bytes : ByteArray) : UInt64 :=
  let n := bytes.size
  let pairs := (n - 1) / 32 + 1
  let mixed := (List.range pairs).foldl
    (fun acc i => acc + mix16 bytes (16 * i) (32 * i) +
      mix16 bytes (n - 16 * (i + 1)) (32 * i + 16))
    (n.toUInt64 * prime64A)
  avalanche mixed

/-- Eight pieces, a round of mixing, the remaining whole pieces, and the last sixteen bytes. -/
def hash129to240 (bytes : ByteArray) : UInt64 :=
  let n := bytes.size
  let start := (List.range 8).foldl (fun acc i => acc + mix16 bytes (16 * i) (16 * i))
    (n.toUInt64 * prime64A)
  let rest := (List.range (n / 16 - 8)).foldl
    (fun acc i => acc + mix16 bytes (16 * (i + 8)) (16 * i + 3)) (avalanche start)
  avalanche (rest + mix16 bytes (n - 16) 119)

/-! ## More than 240 bytes -/

/-- Eight running sums. -/
abbrev Lanes := Vector UInt64 8

/-- The lanes before the first stripe. -/
def Lanes.start : Lanes :=
  #v[prime32C, prime64A, prime64B, prime64C, prime64D, prime32B, prime64E, prime32A]

/-- Takes in 64 bytes: a lane gains its neighbour's word and the product of the halves of its
own keyed word. -/
def Lanes.addStripe (lanes : Lanes) (bytes : ByteArray) (i key : Nat) : Lanes :=
  Vector.ofFn fun (lane : Fin 8) =>
    let neighbour := if lane.val % 2 = 0 then lane.val + 1 else lane.val - 1
    let keyed := word64 bytes (i + 8 * lane.val) ^^^ word64 secret (key + 8 * lane.val)
    let low : UInt64 := keyed &&& 0xFFFFFFFF
    let high : UInt64 := keyed >>> 32
    lanes.get lane + word64 bytes (i + 8 * neighbour) + low * high

/-- Takes in a number of stripes that stand side by side. -/
def Lanes.addStripes (lanes : Lanes) (bytes : ByteArray) (i count : Nat) : Lanes :=
  (List.range count).foldl (fun acc s => acc.addStripe bytes (i + 64 * s) (8 * s)) lanes

/-- Mixes every lane by itself, at the end of a block. -/
def Lanes.scramble (lanes : Lanes) : Lanes :=
  Vector.ofFn fun (lane : Fin 8) =>
    let x := lanes.get lane
    ((x ^^^ (x >>> 47)) ^^^ word64 secret (128 + 8 * lane.val)) * prime32A

/-- The lanes folded in pairs into one word. -/
def Lanes.merge (lanes : Lanes) (start : UInt64) : UInt64 :=
  let pairs := [(lanes[0], lanes[1]), (lanes[2], lanes[3]), (lanes[4], lanes[5]),
    (lanes[6], lanes[7])]
  avalanche <| pairs.zipIdx.foldl
    (fun (acc : UInt64) (pair, i) => acc + foldedProduct (pair.1 ^^^ word64 secret (11 + 16 * i))
      (pair.2 ^^^ word64 secret (19 + 16 * i))) start

/-- Whole blocks of sixteen stripes, the whole stripes after them, and the last 64 bytes. -/
def hashLong (bytes : ByteArray) : UInt64 :=
  let n := bytes.size
  let blocks := (n - 1) / 1024
  let lanes := (List.range blocks).foldl
    (fun acc b => (acc.addStripes bytes (1024 * b) 16).scramble) Lanes.start
  let lanes := lanes.addStripes bytes (1024 * blocks) ((n - 1 - 1024 * blocks) / 64)
  let lanes := lanes.addStripe bytes (n - 64) 121
  lanes.merge (n.toUInt64 * prime64A)

/-- XXH3-64 of some bytes, with seed 0 and the default secret. -/
def xxh3 (bytes : ByteArray) : UInt64 :=
  let n := bytes.size
  if n = 0 then hashEmpty
  else if n ≤ 3 then hash1to3 bytes
  else if n ≤ 8 then hash4to8 bytes
  else if n ≤ 16 then hash9to16 bytes
  else if n ≤ 128 then hash17to128 bytes
  else if n ≤ 240 then hash129to240 bytes
  else hashLong bytes

end CodeIndex.Hash
