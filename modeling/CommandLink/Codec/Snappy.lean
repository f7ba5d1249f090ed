import CommandLink.Codec.Fill

/-!
# The Snappy format

A preamble tells how long the data is, then literals and copies spell it out.
The whole is decompressed at once, and only when the preamble agrees with the
declared length.
-/

namespace CommandLink.Snappy

/-- Data that is no Snappy data. -/
def damaged : CodecFault := .damaged .other "snappy: corrupt input"

/-- The number at the front, seven bits a byte, and the bytes it takes. It may
not start a byte beyond its sixty-fourth bit. -/
def preamble? : (shift size : Nat) → (value : Nat) → Bytes → Option (Nat × Nat)
  | _, _, _, [] => none
  | shift, size, value, byte :: rest =>
    if 64 ≤ shift then none
    else
      let value := value + (byte.toNat % 128) <<< shift
      if byte.toNat < 128 then some (value % UInt64.size, size + 1)
      else preamble? (shift + 7) (size + 1) value rest

/-- The length that the data announces. No data announces nothing. -/
def announced (data : Bytes) : Except CodecFault Nat :=
  if data = [] then .ok 0
  else
    match preamble? 0 0 0 data with
    | none => .error damaged
    | some (length, _) => if length < UInt32.size then .ok length else .error damaged

/-- One instruction: bytes to take from the input, or bytes to repeat. -/
inductive Piece where
  | literal (length : Nat)
  | copy (offset length : Nat)

/-- Read an instruction and tell how many bytes it took, its tag counted. A
literal whose length is written out is read only where four bytes follow its
tag. -/
def piece? : Bytes → Option (Piece × Nat)
  | [] => none
  | tag :: rest =>
    let low := tag.toNat % 4
    let high := tag.toNat / 4
    if low = 0 then
      if high < 60 then some (.literal (high + 1), 1)
      else
        let width := high - 59
        if Bytes.holds rest 4 then some (.literal (Bytes.toNat (rest.take width) + 1), width + 1)
        else none
    else
      let width := if low = 3 then 4 else low
      if Bytes.holds rest width then
        let offset := Bytes.toNat (rest.take width)
        if low = 1 then some (.copy (high / 8 * 256 + offset) (high % 8 + 4), 2)
        else some (.copy offset (high + 1), width + 1)
      else none

/-- Repeat bytes from a distance back. -/
def copyBack (offset : Nat) : (length : Nat) → ByteArray → ByteArray
  | 0, out => out
  | length + 1, out => copyBack offset length (out.push ((out[out.size - offset]?).getD 0))

/-- Append bytes. -/
def pushAll : Bytes → ByteArray → ByteArray
  | [], out => out
  | byte :: rest, out => pushAll rest (out.push byte)

/-- Follow the instructions to the end of the data, never past the length that
was announced. -/
def run (length : Nat) : (fuel : Nat) → Bytes → ByteArray → Option ByteArray
  | _, [], out => if out.size = length then some out else none
  | 0, _ :: _, _ => none
  | fuel + 1, data, out =>
    match piece? data with
    | none => none
    | some (.literal count, size) =>
      let rest := data.drop size
      if count ≤ length - out.size ∧ Bytes.holds rest count then
        run length fuel (rest.drop count) (pushAll (rest.take count) out)
      else none
    | some (.copy offset count, size) =>
      if offset = 0 ∨ out.size < offset ∨ length - out.size < count then none
      else run length fuel (data.drop size) (copyBack offset count out)

/-- The data that the bytes spell out. -/
def expand (data : Bytes) : Except CodecFault Bytes :=
  match preamble? 0 0 0 data with
  | none => .error damaged
  | some (length, size) =>
    match run length data.length (data.drop size) .empty with
    | none => .error damaged
    | some out => .ok out.data.toList

/-- Append exactly the declared number of bytes, or nothing: the data is followed
only when it announces that many, and is refused when it does not keep to it. -/
def uncompress (data : Bytes) (declared : Nat) (buffer : Bytes) : Fill :=
  let bytes := do
    expectLength (← announced data) declared
    expand data
  match bytes with
  | .ok bytes => ⟨buffer ++ bytes, .ok ()⟩
  | .error fault => ⟨buffer, .error fault⟩

/-- A number, seven bits a byte. -/
def varint : (fuel : Nat) → Nat → Bytes
  | 0, _ => []
  | fuel + 1, n =>
    if n < 128 then [UInt8.ofNat n] else UInt8.ofNat (n % 128 + 128) :: varint fuel (n / 128)

/-- A Snappy form of the data, as one literal. -/
def compress (data : Bytes) : Bytes :=
  let length := data.length
  let tag : Bytes :=
    if length = 0 then []
    else if length ≤ 60 then [UInt8.ofNat (4 * (length - 1))]
    else if length ≤ 0x100 then 0xF0 :: Bytes.ofNat 1 (length - 1)
    else if length ≤ 0x10000 then 0xF4 :: Bytes.ofNat 2 (length - 1)
    else if length ≤ 0x1000000 then 0xF8 :: Bytes.ofNat 3 (length - 1)
    else 0xFC :: Bytes.ofNat 4 (length - 1)
  varint 5 length ++ tag ++ data

end CommandLink.Snappy
