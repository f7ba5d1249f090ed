import CommandLink.Bytes
import CommandLink.Error

/-!
# Message headers

A message starts with sixteen bytes: its length with the header counted, its
own id, the id of the request it answers and its opcode. A header is accepted
when its length covers itself and stays within a limit, so the length of a body
is never taken of anything shorter than a header.
-/

namespace CommandLink

/-- The messages that have a name. -/
inductive Opcode where
  | reply
  | query
  | compressed
  | msg
  deriving DecidableEq, Repr

namespace Opcode

/-- The number of an opcode on the wire. -/
def value : Opcode → Int32
  | reply => 1
  | query => 2004
  | compressed => 2012
  | msg => 2013

/-- The opcode of a number. -/
def ofValue? (value : Int32) : Option Opcode :=
  if value = 1 then some reply
  else if value = 2004 then some query
  else if value = 2012 then some compressed
  else if value = 2013 then some msg
  else none

/-- The name of an opcode in a report. -/
def label : Opcode → String
  | reply => "Reply"
  | query => "Query"
  | compressed => "Compressed"
  | msg => "Msg"

theorem ofValue?_value (opcode : Opcode) : ofValue? opcode.value = some opcode := by
  cases opcode <;> rfl

end Opcode

/-- The header of a message. -/
structure Header where
  messageLength : UInt32
  requestId : UInt32
  responseTo : UInt32
  opcode : Int32
  deriving DecidableEq, Repr

namespace Header

/-- How many bytes a header takes. -/
def size : Nat := 16

/-- The sixteen bytes of a header. -/
def encode (header : Header) : Bytes :=
  Bytes.ofUInt32 header.messageLength ++ Bytes.ofUInt32 header.requestId ++
    Bytes.ofUInt32 header.responseTo ++ Bytes.ofInt32 header.opcode

/-- Write a header over the first sixteen bytes, field by field. -/
def overFront (header : Header) (buffer : Bytes) : Bytes :=
  (((buffer.overwrite 0 (Bytes.ofUInt32 header.messageLength)).overwrite 4
    (Bytes.ofUInt32 header.requestId)).overwrite 8
      (Bytes.ofUInt32 header.responseTo)).overwrite 12 (Bytes.ofInt32 header.opcode)

/-- The fields in the first sixteen bytes, whatever they say. -/
def fields (data : Bytes) : Header :=
  ⟨data.toUInt32, Bytes.toUInt32 (data.drop 4), Bytes.toUInt32 (data.drop 8),
    Bytes.toInt32 (data.drop 12)⟩

/-- Read a header whose message may be `limit` bytes long. -/
def decode (data : Bytes) (limit : Nat) : Except LinkError Header :=
  if ¬ data.holds size then
    .error (.protocolFraming (.shortHeader data.length))
  else
    let header := fields data
    let length := header.messageLength.toNat
    if length < size then .error (.protocolFraming (.lengthBelowHeader length))
    else if limit < length then .error (.protocolFraming (.lengthAboveLimit length limit))
    else .ok header

/-- How many bytes follow the header. -/
def bodySize (header : Header) : Nat := header.messageLength.toNat - size

/-- Whether the body is an envelope. -/
def isEnvelope (header : Header) : Bool := header.opcode = Opcode.compressed.value

end Header

/-- The header of a reply as it is handed on: the header of the message itself,
whether it came in an envelope or not. -/
structure InboundHeader where
  messageLength : UInt32
  requestId : UInt32
  responseTo : UInt32
  opcode : Int32
  compressed : Bool
  deriving DecidableEq, Repr

/-- A header that came without an envelope. -/
def Header.toInbound (header : Header) : InboundHeader :=
  ⟨header.messageLength, header.requestId, header.responseTo, header.opcode, false⟩

end CommandLink
