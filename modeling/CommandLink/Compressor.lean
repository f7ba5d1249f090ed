import CommandLink.Codec.Snappy
import CommandLink.Codec.Zlib
import CommandLink.Codec.Zstd.Frame
import CommandLink.Compressor.Method
import CommandLink.Error

/-!
# Compressors

A compressor packs the body of a message and unpacks one into a buffer, where
the length of the result has been declared beforehand: the buffer gains exactly
so many bytes, or stays as it was. What packing writes is left to the libraries
that do it.
-/

namespace CommandLink

/-- A compressor as it is configured. -/
structure CompressorChoice where
  method : CompressionMethod
  level : CompressionEffort := .default
  deriving DecidableEq, Repr

/-- A compressor ready for use, at a level on its own scale. -/
structure Compressor where
  method : CompressionMethod
  level : Nat
  deriving DecidableEq, Repr

/-- The libraries that pack data. Each chooses the form that it writes, by the
level where it has levels, and may refuse data. -/
structure Packing where
  snappy : Bytes → Except CodecFault Bytes
  zlib : (level : Nat) → Bytes → Except CodecFault Bytes
  zstd : (level : Nat) → Bytes → Except CodecFault Bytes

/-- Libraries that write plain forms, the same at every level. -/
def Packing.plain : Packing :=
  { snappy := fun data => .ok (Snappy.compress data)
    zlib := fun _ data => .ok (Zlib.compress data)
    zstd := fun _ data => .ok (Zstd.compress data) }

namespace CompressorChoice

/-- The compressor of a name, at its default level. -/
def ofName (name : String) : Except LinkError CompressorChoice :=
  match CompressionMethod.ofName? name with
  | some method => .ok { method }
  | none => .error (.unsupportedCompressor (.unknownName name))

/-- The compressor that a configuration asks for. -/
def create (choice : CompressorChoice) : Compressor :=
  match choice.method with
  | .noop => ⟨.noop, 0⟩
  | .snappy => ⟨.snappy, 0⟩
  | .zlib => ⟨.zlib, choice.level.onZlib⟩
  | .zstd => ⟨.zstd, choice.level.onZstd⟩

@[simp] theorem method_create (choice : CompressorChoice) :
    choice.create.method = choice.method := by
  obtain ⟨method, level⟩ := choice
  cases method <;> rfl

end CompressorChoice

namespace Compressor

/-- The name exchanged when a connection is set up. -/
def name (compressor : Compressor) : String := compressor.method.name

/-- The number on the wire. -/
def id (compressor : Compressor) : UInt8 := compressor.method.id

/-- Pack data with the libraries at hand. -/
def pack (compressor : Compressor) (packing : Packing) (data : Bytes) :
    Except CodecFault Bytes :=
  match compressor.method with
  | .noop => .ok data
  | .snappy => packing.snappy data
  | .zlib => packing.zlib compressor.level data
  | .zstd => packing.zstd compressor.level data

/-- Pack data in a plain form. -/
def compress (compressor : Compressor) (data : Bytes) : Bytes :=
  match compressor.method with
  | .noop => data
  | .snappy => Snappy.compress data
  | .zlib => Zlib.compress data
  | .zstd => Zstd.compress data

/-- Unpack data at the end of a buffer. -/
def uncompress (compressor : Compressor) (data : Bytes) (declared : Nat) (buffer : Bytes) : Fill :=
  match compressor.method with
  | .noop =>
    match expectLength data.length declared with
    | .ok _ => ⟨buffer ++ data, .ok ()⟩
    | .error fault => ⟨buffer, .error fault⟩
  | .snappy => Snappy.uncompress data declared buffer
  | .zlib => Zlib.uncompress data declared buffer
  | .zstd => Zstd.uncompress data declared buffer

end Compressor

end CommandLink
