/-!
# The check value of a frame

A 64-bit hash with seed zero: four lanes take eight bytes each in turn, then
what is left over is mixed in word by word and byte by byte.
-/

namespace CommandLink.Zstd.Checksum

/-- The multipliers of the hash. -/
def prime₁ : UInt64 := 0x9E3779B185EBCA87

/-- See `prime₁`. -/
def prime₂ : UInt64 := 0xC2B2AE3D27D4EB4F

/-- See `prime₁`. -/
def prime₃ : UInt64 := 0x165667B19E3779F9

/-- See `prime₁`. -/
def prime₄ : UInt64 := 0x85EBCA77C2B2AE63

/-- See `prime₁`. -/
def prime₅ : UInt64 := 0x27D4EB2F165667C5

/-- Turn a word to the left. -/
def rotate (word : UInt64) (count : UInt64) : UInt64 :=
  word <<< count ||| word >>> (64 - count)

/-- Little-endian bytes from an offset on as a word. -/
def word (data : ByteArray) (offset : Nat) : (count : Nat) → UInt64
  | 0 => 0
  | count + 1 => ((data[offset]?).getD 0).toUInt64 ||| word data (offset + 1) count <<< 8

/-- Mix a word into a lane. -/
def round (lane input : UInt64) : UInt64 := rotate (lane + input * prime₂) 31 * prime₁

/-- The four lanes. -/
structure Lanes where
  a : UInt64
  b : UInt64
  c : UInt64
  d : UInt64

/-- Take 32 bytes at a time. -/
def stripes (data : ByteArray) : (count offset : Nat) → Lanes → Lanes
  | 0, _, lanes => lanes
  | count + 1, offset, ⟨a, b, c, d⟩ =>
    stripes data count (offset + 32)
      ⟨round a (word data offset 8), round b (word data (offset + 8) 8),
        round c (word data (offset + 16) 8), round d (word data (offset + 24) 8)⟩

/-- Bring the lanes together. -/
def merge (lanes : Lanes) : UInt64 :=
  let join (hash lane : UInt64) : UInt64 := (hash ^^^ round 0 lane) * prime₁ + prime₄
  let hash := rotate lanes.a 1 + rotate lanes.b 7 + rotate lanes.c 12 + rotate lanes.d 18
  join (join (join (join hash lanes.a) lanes.b) lanes.c) lanes.d

/-- Mix in eight bytes at a time. -/
def words (data : ByteArray) : (count offset : Nat) → UInt64 → UInt64
  | 0, _, hash => hash
  | count + 1, offset, hash =>
    words data count (offset + 8)
      (rotate (hash ^^^ round 0 (word data offset 8)) 27 * prime₁ + prime₄)

/-- Mix in single bytes. -/
def bytes (data : ByteArray) : (count offset : Nat) → UInt64 → UInt64
  | 0, _, hash => hash
  | count + 1, offset, hash =>
    bytes data count (offset + 1)
      (rotate (hash ^^^ ((data[offset]?).getD 0).toUInt64 * prime₅) 11 * prime₁)

/-- Spread the bits over the whole hash. -/
def avalanche (hash : UInt64) : UInt64 :=
  let hash := (hash ^^^ hash >>> 33) * prime₂
  let hash := (hash ^^^ hash >>> 29) * prime₃
  hash ^^^ hash >>> 32

/-- The hash of data. -/
def hash (data : ByteArray) : UInt64 :=
  let size := data.size
  let start :=
    if size < 32 then prime₅
    else merge (stripes data (size / 32) 0 ⟨prime₁ + prime₂, prime₂, 0, 0 - prime₁⟩)
  let atWords := size / 32 * 32
  let mixed := words data ((size - atWords) / 8) atWords (start + size.toUInt64)
  let atHalf := size / 8 * 8
  let half := 4 ≤ size - atHalf
  let mixed :=
    if half then rotate (mixed ^^^ word data atHalf 4 * prime₁) 23 * prime₂ + prime₃ else mixed
  let atBytes := if half then atHalf + 4 else atHalf
  avalanche (bytes data (size - atBytes) atBytes mixed)

end CommandLink.Zstd.Checksum
