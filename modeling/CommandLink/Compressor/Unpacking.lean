import CommandLink.Compressor

/-!
# Unpacking with other libraries

What unpacks data are libraries, and little has to be known of them. One for Snappy data works in
place: the buffer grows by the length that the data announces, the library writes over what it
gained, and what was not written is cut off again. The others are readers, and one of them may
refuse the data at once. `Compressor.unpackWith` unpacks with any libraries, `Unpacking.own` are
those at hand.
-/

namespace CommandLink

namespace Snappy

/-- A library for Snappy data. It tells the length that the data announces, and writes what the data
spells out over a room of bytes, of which it can leave anything when it fails. -/
structure Library where
  announced : Bytes → Except CodecFault Nat
  write : (data room : Bytes) → Bytes × Except CodecFault Nat
  length_write : ∀ data room, (write data room).1.length = room.length

namespace Library

/-- Grow the buffer, have the library write over what it gained, and cut off what was not written:
all of it when the library fails. -/
def uncompress (library : Library) (data : Bytes) (declared : Nat) (buffer : Bytes) : Fill :=
  match library.announced data with
  | .error fault => ⟨buffer, .error fault⟩
  | .ok length =>
    match expectLength length declared with
    | .error fault => ⟨buffer, .error fault⟩
    | .ok _ =>
      let start := buffer.length
      let grown := buffer ++ List.replicate length 0
      let (room, outcome) := library.write data (grown.drop start)
      let filled := grown.take start ++ room
      match outcome with
      | .error fault => ⟨filled.take start, .error fault⟩
      | .ok written => ⟨filled.take (start + written), expectLength written declared⟩

/-- A library that expands the data beside the room and fills the room when the lengths agree. -/
def own : Library where
  announced := Snappy.announced
  write data room :=
    match expand data with
    | .error fault => (room, .error fault)
    | .ok bytes => if bytes.length = room.length then (bytes, .ok bytes.length)
        else (room, .error damaged)
  length_write data room := by
    split
    · rfl
    · split
      · assumption
      · rfl

end Library

end Snappy

/-- A reader at the start of its data. -/
structure Source where
  {σ : Type}
  reader : Reader σ
  state : σ

/-- The libraries that unpack data. The one for zstd data may refuse it at once. -/
structure Unpacking where
  snappy : Snappy.Library
  zlib : Bytes → Source
  zstd : Bytes → Except CodecFault Source

/-- The libraries at hand. -/
def Unpacking.own : Unpacking where
  snappy := .own
  zlib data := ⟨Zlib.reader, Zlib.start data⟩
  zstd data := .ok ⟨Zstd.reader, Zstd.State.start data⟩

/-- Unpack data at the end of a buffer, with any libraries. -/
def Compressor.unpackWith (compressor : Compressor) (unpacking : Unpacking) (data : Bytes)
    (declared : Nat) (buffer : Bytes) : Fill :=
  match compressor.method with
  | .noop =>
    match expectLength data.length declared with
    | .ok _ => ⟨buffer ++ data, .ok ()⟩
    | .error fault => ⟨buffer, .error fault⟩
  | .snappy => unpacking.snappy.uncompress data declared buffer
  | .zlib =>
    let source := unpacking.zlib data
    source.reader.fill source.state declared buffer
  | .zstd =>
    match unpacking.zstd data with
    | .error fault => ⟨buffer, .error fault⟩
    | .ok source => source.reader.fill source.state declared buffer

end CommandLink
