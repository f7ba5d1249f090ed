import CommandLink.Bson.Element
import CommandLink.Frame.Header

/-!
# Replies

A reply answers the request whose id it names. The document in it is found by
the layout of its opcode: behind flags and the kind of a first section, or
behind the fixed fields of a legacy reply. A flag may announce a checksum at
the end, which is then no part of the document's room.
-/

namespace CommandLink

/-- The first document of a reply, under the reply's header. -/
structure Reply where
  header : InboundHeader
  document : RawDocument

namespace Reply

/-- The document at an offset. Its length field has to fit into what remains. -/
def documentAt (body : Bytes) (offset : Nat) : Except LinkError RawDocument :=
  let remaining := body.length - offset
  let rest : Bytes := body.drop offset
  if remaining < 5 then .error (.protocolFraming (.noDocumentAt offset remaining))
  else
    let declared : Int := Bytes.toInt32 rest |>.toInt
    if declared < 5 ∨ remaining < declared then
      .error (.protocolFraming (.documentOverflow declared remaining))
    else
      match RawDocument.ofBytes? (rest.take declared.toNat) with
      | some document => .ok document
      | none => .error (.decode .malformedReply)

/-- Whether the flags announce a checksum. -/
def announcesChecksum (body : Bytes) : Bool := body.toUInt32 &&& 1 ≠ 0

/-- Where the sections end. -/
def sectionsEnd (body : Bytes) : Nat :=
  if announcesChecksum body then body.length - 4 else body.length

/-- The document of a reply in the present form. -/
def msgDocument (body : Bytes) : Except LinkError RawDocument :=
  if body.length < 5 then .error (.protocolFraming (.shortMsg body.length))
  else if body.getD 4 0 ≠ 0 then
    .error (.protocolFraming (.unexpectedSection (body.getD 4 0).toNat))
  else documentAt (body.take (sectionsEnd body)) 5

/-- How many bytes stand before the documents of a legacy reply. -/
def legacyPreamble : Nat := 20

/-- The first document of a reply in the legacy form. -/
def legacyDocument (body : Bytes) : Except LinkError RawDocument :=
  if body.length < legacyPreamble then .error (.protocolFraming (.shortReply body.length))
  else if (Bytes.toInt32 (body.drop 16)).toInt < 1 then .error (.protocolFraming .noDocuments)
  else documentAt body legacyPreamble

/-- Find the document of the reply to a request. -/
def parse (header : InboundHeader) (body : Bytes) (requestId : UInt32) :
    Except LinkError Reply :=
  if header.responseTo ≠ requestId then
    .error (.protocolFraming (.wrongResponse header.responseTo requestId))
  else
    let document :=
      if header.opcode = Opcode.msg.value then msgDocument body
      else if header.opcode = Opcode.reply.value then legacyDocument body
      else .error (.protocolFraming (.unexpectedOpcode header.opcode.toInt))
    document.map fun document => ⟨header, document⟩

end Reply

end CommandLink
