import ShaderLoom.Digest.Basic

/-!
# The XXH3 digest

The 128-bit variant of XXH3 with seed zero.  Inputs of at most 240 bytes go through one of five
short schemes, chosen by length; longer ones are cut into stripes of 64 bytes that are folded
into eight accumulator lanes.

Everything is little-endian arithmetic on 64-bit words.  A read outside the bytes gives zero;
the schemes only read inside them.
-/

namespace ShaderLoom
namespace Digest
namespace Xxh3

/-- The byte at a position. -/
def byteAt (bytes : ByteArray) (i : Nat) : UInt8 :=
  if h : i < bytes.size then bytes[i] else 0

/-- The little-endian 32-bit word at a position, widened. -/
def word32 (bytes : ByteArray) (i : Nat) : UInt64 :=
  (byteAt bytes i).toUInt64 ||| ((byteAt bytes (i + 1)).toUInt64 <<< 8) |||
    ((byteAt bytes (i + 2)).toUInt64 <<< 16) ||| ((byteAt bytes (i + 3)).toUInt64 <<< 24)

/-- The little-endian 64-bit word at a position. -/
def word64 (bytes : ByteArray) (i : Nat) : UInt64 :=
  word32 bytes i ||| (word32 bytes (i + 4) <<< 32)

/-- The 192 bytes that key the schemes when no seed is given. -/
def secret : ByteArray := ⟨#[
  0xb8, 0xfe, 0x6c, 0x39, 0x23, 0xa4, 0x4b, 0xbe,
  0x7c, 0x01, 0x81, 0x2c, 0xf7, 0x21, 0xad, 0x1c,
  0xde, 0xd4, 0x6d, 0xe9, 0x83, 0x90, 0x97, 0xdb,
  0x72, 0x40, 0xa4, 0xa4, 0xb7, 0xb3, 0x67, 0x1f,
  0xcb, 0x79, 0xe6, 0x4e, 0xcc, 0xc0, 0xe5, 0x78,
  0x82, 0x5a, 0xd0, 0x7d, 0xcc, 0xff, 0x72, 0x21,
  0xb8, 0x08, 0x46, 0x74, 0xf7, 0x43, 0x24, 0x8e,
  0xe0, 0x35, 0x90, 0xe6, 0x81, 0x3a, 0x26, 0x4c,
  0x3c, 0x28, 0x52, 0xbb, 0x91, 0xc3, 0x00, 0xcb,
  0x88, 0xd0, 0x65, 0x8b, 0x1b, 0x53, 0x2e, 0xa3,
  0x71, 0x64, 0x48, 0x97, 0xa2, 0x0d, 0xf9, 0x4e,
  0x38, 0x19, 0xef, 0x46, 0xa9, 0xde, 0xac, 0xd8,
  0xa8, 0xfa, 0x76, 0x3f, 0xe3, 0x9c, 0x34, 0x3f,
  0xf9, 0xdc, 0xbb, 0xc7, 0xc7, 0x0b, 0x4f, 0x1d,
  0x8a, 0x51, 0xe0, 0x4b, 0xcd, 0xb4, 0x59, 0x31,
  0xc8, 0x9f, 0x7e, 0xc9, 0xd9, 0x78, 0x73, 0x64,
  0xea, 0xc5, 0xac, 0x83, 0x34, 0xd3, 0xeb, 0xc3,
  0xc5, 0x81, 0xa0, 0xff, 0xfa, 0x13, 0x63, 0xeb,
  0x17, 0x0d, 0xdd, 0x51, 0xb7, 0xf0, 0xda, 0x49,
  0xd3, 0x16, 0x55, 0x26, 0x29, 0xd4, 0x68, 0x9e,
  0x2b, 0x16, 0xbe, 0x58, 0x7d, 0x47, 0xa1, 0xfc,
  0x8f, 0xf8, 0xb8, 0xd1, 0x7a, 0xd0, 0x31, 0xce,
  0x45, 0xcb, 0x3a, 0x8f, 0x95, 0x16, 0x04, 0x28,
  0xaf, 0xd7, 0xfb, 0xca, 0xbb, 0x4b, 0x40, 0x7e]⟩

/-- The 32-bit word of the secret at a position. -/
def key32 (i : Nat) : UInt64 := word32 secret i

/-- The 64-bit word of the secret at a position. -/
def key64 (i : Nat) : UInt64 := word64 secret i

/-! ## Constants -/

def prime32x1 : UInt64 := 0x9E3779B1
def prime32x2 : UInt64 := 0x85EBCA77
def prime32x3 : UInt64 := 0xC2B2AE3D
def prime64x1 : UInt64 := 0x9E3779B185EBCA87
def prime64x2 : UInt64 := 0xC2B2AE3D27D4EB4F
def prime64x3 : UInt64 := 0x165667B19E3779F9
def prime64x4 : UInt64 := 0x85EBCA77C2B2AE63
def prime64x5 : UInt64 := 0x27D4EB2F165667C5
def mixer1 : UInt64 := 0x165667919E3779F9
def mixer2 : UInt64 := 0x9FB21C651E98DF25

/-! ## Mixing -/

/-- Spreads the high bits of a word over its low bits. -/
def xorShift (w : UInt64) (n : UInt64) : UInt64 := w ^^^ (w >>> n)

/-- The finishing permutation of the medium and long schemes. -/
def avalanche (w : UInt64) : UInt64 :=
  xorShift (xorShift w 37 * mixer1) 32

/-- The stronger finishing permutation of the shortest schemes. -/
def avalancheStrong (w : UInt64) : UInt64 :=
  xorShift (xorShift (xorShift w 33 * prime64x2) 29 * prime64x3) 32

/-- The 128-bit product of two words, as its high and low word. -/
def multiply (a b : UInt64) : Digest :=
  Digest.ofNat (a.toNat * b.toNat)

/-- The 128-bit product of two words, folded to one word. -/
def multiplyFold (a b : UInt64) : UInt64 :=
  let product := multiply a b
  product.low ^^^ product.high

/-- The low half of a word. -/
def lowHalf (w : UInt64) : UInt64 := w &&& 0xFFFFFFFF

/-- A 32-bit word with its bytes in reverse order. -/
def swap32 (w : UInt64) : UInt64 :=
  let low : UInt64 := 0xFF
  ((w &&& low) <<< 24) ||| (((w >>> 8) &&& low) <<< 16) ||| (((w >>> 16) &&& low) <<< 8) |||
    ((w >>> 24) &&& low)

/-- A 64-bit word with its bytes in reverse order. -/
def swap64 (w : UInt64) : UInt64 :=
  (swap32 (lowHalf w) <<< 32) ||| swap32 (w >>> 32)

/-- A 32-bit word rotated to the left. -/
def rotate32 (w : UInt64) (n : UInt64) : UInt64 :=
  lowHalf ((w <<< n) ||| (w >>> (32 - n)))

/-! ## Short inputs -/

/-- No bytes at all. -/
def digestEmpty : Digest :=
  ⟨avalancheStrong (key64 80 ^^^ key64 88), avalancheStrong (key64 64 ^^^ key64 72)⟩

/-- One to three bytes. -/
def digestTo3 (bytes : ByteArray) : Digest :=
  let size := bytes.size
  let first := (byteAt bytes 0).toUInt64
  let middle := (byteAt bytes (size / 2)).toUInt64
  let last := (byteAt bytes (size - 1)).toUInt64
  let low := (first <<< 16) ||| (middle <<< 24) ||| last ||| (UInt64.ofNat size <<< 8)
  let high := rotate32 (swap32 low) 13
  ⟨avalancheStrong (high ^^^ (key32 8 ^^^ key32 12)),
    avalancheStrong (low ^^^ (key32 0 ^^^ key32 4))⟩

/-- Four to eight bytes. -/
def digestTo8 (bytes : ByteArray) : Digest :=
  let size := bytes.size
  let input := word32 bytes 0 + (word32 bytes (size - 4) <<< 32)
  let keyed := input ^^^ (key64 16 ^^^ key64 24)
  let product := multiply keyed (prime64x1 + (UInt64.ofNat size <<< 2))
  let high := product.high + (product.low <<< 1)
  let low := product.low ^^^ (high >>> 3)
  ⟨avalanche high, xorShift (xorShift low 35 * mixer2) 28⟩

/-- Nine to sixteen bytes. -/
def digestTo16 (bytes : ByteArray) : Digest :=
  let size := bytes.size
  let head := word64 bytes 0
  let tail := word64 bytes (size - 8)
  let product := multiply (head ^^^ tail ^^^ (key64 32 ^^^ key64 40)) prime64x1
  let low := product.low + (UInt64.ofNat (size - 1) <<< 54)
  let flipped := tail ^^^ (key64 48 ^^^ key64 56)
  let high := product.high + flipped + lowHalf flipped * (prime32x2 - 1)
  let second := multiply (low ^^^ swap64 high) prime64x2
  ⟨avalanche (second.high + high * prime64x2), avalanche second.low⟩

/-! ## Medium inputs -/

/-- Sixteen bytes at `position`, keyed by the secret at `key`. -/
def mix16 (bytes : ByteArray) (position key : Nat) : UInt64 :=
  multiplyFold (word64 bytes position ^^^ key64 key)
    (word64 bytes (position + 8) ^^^ key64 (key + 8))

/-- Folds two blocks of sixteen bytes into the pair of accumulators. -/
def mix32 (bytes : ByteArray) (acc : Digest) (first second key : Nat) : Digest :=
  ⟨(acc.high + mix16 bytes second (key + 16)) ^^^
    (word64 bytes first + word64 bytes (first + 8)),
    (acc.low + mix16 bytes first key) ^^^ (word64 bytes second + word64 bytes (second + 8))⟩

/-- The digest of a finished pair of accumulators. -/
def finishPair (size : Nat) (acc : Digest) : Digest :=
  let high := acc.low * prime64x1 + acc.high * prime64x4 + UInt64.ofNat size * prime64x2
  ⟨0 - avalanche high, avalanche (acc.low + acc.high)⟩

/-- Seventeen to 128 bytes: blocks are taken from both ends towards the middle. -/
def digestTo128 (bytes : ByteArray) : Digest :=
  let size := bytes.size
  let rounds := (size - 1) / 32
  let start : Digest := ⟨0, UInt64.ofNat size * prime64x1⟩
  finishPair size <| (List.range (rounds + 1)).foldr
    (fun i acc => mix32 bytes acc (16 * i) (size - 16 * (i + 1)) (32 * i)) start

/-- 129 to 240 bytes: blocks are taken from the front, and the last two once more. -/
def digestTo240 (bytes : ByteArray) : Digest :=
  let size := bytes.size
  let start : Digest := ⟨0, UInt64.ofNat size * prime64x1⟩
  let head := (List.range 4).foldl
    (fun acc i => mix32 bytes acc (32 * i) (32 * i + 16) (32 * i)) start
  let turned : Digest := ⟨avalanche head.high, avalanche head.low⟩
  let body := (List.range (size / 32 - 4)).foldl
    (fun acc i => mix32 bytes acc (128 + 32 * i) (144 + 32 * i) (3 + 32 * i)) turned
  finishPair size (mix32 bytes body (size - 16) (size - 32) 103)

/-! ## Long inputs -/

/-- The eight lanes of the accumulator. -/
abbrev Lanes := Vector UInt64 8

/-- The lanes before any stripe. -/
def initialLanes : Lanes :=
  #v[prime32x3, prime64x1, prime64x2, prime64x3, prime64x4, prime32x2, prime64x5, prime32x1]

/-- The other lane of a lane's pair. -/
def partner (i : Fin 8) : Fin 8 :=
  ⟨i.val ^^^ 1, by revert i; decide⟩

/-- Folds the stripe of 64 bytes at `position` into the lanes, keyed by the secret at `key`. -/
def accumulate (bytes : ByteArray) (lanes : Lanes) (position key : Nat) : Lanes :=
  Vector.ofFn fun i =>
    let keyed := word64 bytes (position + 8 * i.val) ^^^ key64 (key + 8 * i.val)
    lanes.get i + lowHalf keyed * (keyed >>> 32) +
      word64 bytes (position + 8 * (partner i).val)

/-- Mixes the lanes at the end of a block. -/
def scramble (lanes : Lanes) : Lanes :=
  Vector.ofFn fun i =>
    (xorShift (lanes.get i) 47 ^^^ key64 (128 + 8 * i.val)) * prime32x1

/-- Folds `count` stripes, the first at `position`, each keyed eight bytes further on. -/
def accumulateStripes (bytes : ByteArray) (lanes : Lanes) (position count : Nat) : Lanes :=
  (List.range count).foldl
    (fun lanes n => accumulate bytes lanes (position + 64 * n) (8 * n)) lanes

/-- Joins the lanes into one word. -/
def mergeLanes (lanes : Lanes) (key : Nat) (start : UInt64) : UInt64 :=
  avalanche <| (List.finRange 4).foldl
    (fun sum i =>
      sum + multiplyFold
        (lanes.get ⟨2 * i.val, by omega⟩ ^^^ key64 (key + 16 * i.val))
        (lanes.get ⟨2 * i.val + 1, by omega⟩ ^^^ key64 (key + 16 * i.val + 8)))
    start

/-- More than 240 bytes: blocks of sixteen stripes, then the rest, then the last 64 bytes. -/
def digestLong (bytes : ByteArray) : Digest :=
  let size := bytes.size
  let blocks := (size - 1) / 1024
  let whole := (List.range blocks).foldl
    (fun lanes b => scramble (accumulateStripes bytes lanes (1024 * b) 16)) initialLanes
  let rest := accumulateStripes bytes whole (1024 * blocks) ((size - 1 - 1024 * blocks) / 64)
  let lanes := accumulate bytes rest (size - 64) 121
  let length := UInt64.ofNat size
  ⟨mergeLanes lanes 117 (~~~(length * prime64x2)), mergeLanes lanes 11 (length * prime64x1)⟩

end Xxh3

/-- The XXH3 digest of a sequence of bytes. -/
def ofBytes (bytes : ByteArray) : Digest :=
  let size := bytes.size
  if size = 0 then Xxh3.digestEmpty
  else if size ≤ 3 then Xxh3.digestTo3 bytes
  else if size ≤ 8 then Xxh3.digestTo8 bytes
  else if size ≤ 16 then Xxh3.digestTo16 bytes
  else if size ≤ 128 then Xxh3.digestTo128 bytes
  else if size ≤ 240 then Xxh3.digestTo240 bytes
  else Xxh3.digestLong bytes

/-- The XXH3 digest of a text, in UTF-8. -/
def ofText (text : String) : Digest :=
  ofBytes text.toUTF8

end Digest
end ShaderLoom
