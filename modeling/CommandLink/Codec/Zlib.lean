import CommandLink.Codec.Deflate.Inflate
import CommandLink.Codec.Fill

/-!
# The zlib format

Output is handed out window by window: a window of 32768 bytes is decompressed
as a whole before its first byte is given, so damage inside a window shows
before any byte of it. Data that merely ends early gives what it can first.
Bytes after the check value are not looked at.
-/

namespace CommandLink.Zlib

/-- How many bytes are decompressed at a time. -/
def windowSize : Nat := 32768

/-- A decompressor and how much of its output has been released and given. -/
structure State where
  inflater : Deflate.Inflater
  released : Nat
  given : Nat

/-- Ready to decompress the data. -/
def start (data : Bytes) : State := ⟨.start data, 0, 0⟩

/-- Damaged data. -/
def damaged : CodecFault := .damaged .invalidInput "corrupt deflate stream"

/-- Give released bytes. -/
def give (room : Nat) (state : State) : Bytes × State :=
  let upto := min state.released (state.given + room)
  ((state.inflater.out.extract state.given upto).data.toList, { state with given := upto })

/-- Release the next window and give from it. -/
def read (room : Nat) (state : State) : Except CodecFault (Bytes × State) :=
  if state.given < state.released then .ok (give room state)
  else
    let target := (state.released / windowSize + 1) * windowSize
    let fuel := state.inflater.source.remaining + 1
    match state.inflater.advance target fuel with
    | (_, some .damaged) => .error damaged
    | (inflater, halt) =>
      let released := min inflater.out.size target
      if state.released < released then
        .ok (give room ⟨inflater, released, state.given⟩)
      else
        match halt with
        | some _ => .error .truncated
        | none => .ok ([], ⟨inflater, released, state.given⟩)

/-- Decompressed bytes of zlib data. -/
def reader : Reader State := ⟨read⟩

/-- Append exactly the declared number of bytes, or nothing. -/
def uncompress (data : Bytes) (declared : Nat) (buffer : Bytes) : Fill :=
  reader.fill (start data) declared buffer

/-- Cut data into stored blocks. -/
def storedBlocks : (fuel : Nat) → Bytes → Bytes
  | 0, _ => []
  | fuel + 1, data =>
    let part := data.take 65535
    let rest := data.drop 65535
    let head := (if rest = [] then 1 else 0) :: Bytes.ofNat 2 part.length
      ++ Bytes.ofNat 2 (65535 - part.length)
    head ++ part ++ (if rest = [] then [] else storedBlocks fuel rest)

/-- A zlib form of the data, as stored blocks. -/
def compress (data : Bytes) : Bytes :=
  [0x78, 0x01] ++ storedBlocks (data.length + 1) data
    ++ (Bytes.ofNat 4 (Deflate.Inflater.checksum ⟨data.toArray⟩)).reverse

end CommandLink.Zlib
