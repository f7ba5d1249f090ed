import CommandLink.Compressor
import CommandLink.Frame.Envelope

/-!
# Messages seen on the wire

What an observer makes of the bytes of one message: its header and body, and
of an envelope the message inside, as far as it can be unpacked.
-/

namespace CommandLink

/-- A message as an observer reads it. -/
inductive Sighting where
  | unreadable (bytes : Bytes)
  | plain (header : Header) (isExact : Bool) (body : Bytes)
  | enveloped (header : Header) (isExact : Bool) (envelope : EnvelopeHeader)
      (body : Option Bytes)

/-- Read a header whatever length it tells. -/
def Header.decodeAny? (bytes : Bytes) : Option Header :=
  (decode bytes UInt32.size).toOption

namespace Sighting

/-- The message inside an envelope. -/
def unpacked? (envelope : EnvelopeHeader) (payload : Bytes) : Option Bytes :=
  (CompressionMethod.all.find? (·.id = envelope.compressorId)).bind fun method =>
    let fill := (CompressorChoice.create { method }).uncompress payload
      envelope.uncompressedSize.toNat []
    match fill.result with
    | .ok _ => some fill.buffer
    | .error _ => none

/-- Read the bytes of a message. -/
def ofBytes (bytes : Bytes) : Sighting :=
  match Header.decodeAny? bytes with
  | none => unreadable bytes
  | some header =>
    let isExact := header.messageLength.toNat = bytes.length
    let body := bytes.drop Header.size
    match header.isEnvelope, EnvelopeHeader.decode body header with
    | true, .ok envelope =>
      enveloped header isExact envelope (unpacked? envelope (body.drop EnvelopeHeader.size))
    | _, _ => plain header isExact body

end Sighting

end CommandLink
