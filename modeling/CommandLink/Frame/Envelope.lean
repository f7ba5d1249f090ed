import CommandLink.Frame.Header

/-!
# Envelopes

A compressed message wraps another: nine bytes tell the opcode and the size of
the message inside and which compressor packed it, then its body follows in
compressed form. The message inside keeps the ids of the envelope.
-/

namespace CommandLink

/-- What an envelope tells of the message inside, under the envelope's own
header. -/
structure EnvelopeHeader where
  innerOpcode : Int32
  uncompressedSize : UInt32
  compressorId : UInt8
  outer : Header
  deriving DecidableEq, Repr

namespace EnvelopeHeader

/-- How many bytes stand before the compressed body. -/
def size : Nat := 9

/-- The nine bytes that follow the outer header. -/
def encode (envelope : EnvelopeHeader) : Bytes :=
  Bytes.ofInt32 envelope.innerOpcode ++ Bytes.ofUInt32 envelope.uncompressedSize ++
    [envelope.compressorId]

/-- Read the front of an envelope's body. -/
def decode (body : Bytes) (outer : Header) : Except LinkError EnvelopeHeader :=
  if ¬ body.holds size then
    .error (.protocolFraming (.shortEnvelope body.length))
  else
    .ok ⟨body.toInt32, Bytes.toUInt32 (body.drop 4), body.getD 8 0, outer⟩

/-- The header that the message inside would have on its own. Its length stops
at the largest a length field can hold. -/
def inner (envelope : EnvelopeHeader) : Header :=
  { messageLength :=
      UInt32.ofNat (min (envelope.uncompressedSize.toNat + Header.size) (UInt32.size - 1))
    requestId := envelope.outer.requestId
    responseTo := envelope.outer.responseTo
    opcode := envelope.innerOpcode }

/-- The header of the message inside, marked as having been compressed. -/
def toInbound (envelope : EnvelopeHeader) : InboundHeader :=
  { envelope.inner.toInbound with compressed := true }

end EnvelopeHeader

end CommandLink
