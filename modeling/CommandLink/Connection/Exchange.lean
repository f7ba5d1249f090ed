import CommandLink.Connection.Status
import CommandLink.Frame.Envelope

/-!
# Messages over a connection

Sending hands bytes to the transport as they are. Receiving reads a header,
then the body that it announces, and unpacks an envelope; nothing is read or
unpacked beyond the limit in force. Whatever fails once the connection was
usable closes it, since the stream may then stand in the midst of a message.
-/

namespace CommandLink.Connection

open CommandLink.Action

variable {σ : Type}

/-- Read so many bytes into a lent buffer. -/
def readBuffer (connection : Connection σ) (mode : Mode) (stage : Stage) (count : Nat) :
    Action σ Buffer := do
  lend (← connection.call mode stage (.asked count) (connection.transport.read mode count))

/-- An empty buffer of the transport's, with room for so many bytes. -/
def spareBuffer (connection : Connection σ) (size : Nat) : Action σ Buffer := do
  modify fun state => state.note (.spared size)
  if connection.transport.lendsSpares then lend [] else pure (.own [])

/-- The compressor that an envelope names and the size of the message inside,
which has to keep to the limit. -/
def planUnpacking (connection : Connection σ) (envelope : EnvelopeHeader) (limit : Nat) :
    Except LinkError (Compressor × Nat) := do
  let compressor ← connection.compressors.require envelope.compressorId
  let size := envelope.uncompressedSize.toNat
  if limit < size + Header.size then
    .error (.protocolFraming (.oversizedContent size limit))
  else .ok (compressor, size)

/-- Unpack an envelope into a buffer of its own. -/
def unpack (connection : Connection σ) (header : Header) (body : Bytes) (limit : Nat) :
    Action σ Response := do
  let envelope ← ofResult (EnvelopeHeader.decode body header)
  let (compressor, size) ← ofResult (connection.planUnpacking envelope limit)
  let spare ← connection.spareBuffer size
  let fill := compressor.uncompress (body.drop EnvelopeHeader.size) size spare.bytes
  let target := { spare with bytes := fill.buffer }
  passing target <|
    match fill.result with
    | .ok _ => .ok ⟨envelope.toInbound, target⟩
    | .error fault => .error (.protocolFraming (.undecompressed compressor.name fault.message))

/-- The message of a header and a body, out of its envelope if it came in
one. -/
def assemble (connection : Connection σ) (header : Header) (body : Buffer) (limit : Nat) :
    Action σ Response :=
  if body.bytes.length ≠ header.bodySize then
    passing body (.error (.protocolFraming
      (.bodyMismatch header.messageLength.toNat header.bodySize body.bytes.length)))
  else if header.isEnvelope then
    holding body (connection.unpack header body.bytes limit)
  else
    pure ⟨header.toInbound, body⟩

/-- Receive a message of at most so many bytes. -/
def receiveWithin (connection : Connection σ) (mode : Mode) (limit : Nat) :
    Action σ Response := do
  modify fun state =>
    state.log .trace "receiving message" [("address", connection.address.text)]
  let front ← connection.readBuffer mode .readingHeader Header.size
  holding front do
    let header ← ofResult (Header.decode front.bytes limit)
    let body ← connection.readBuffer mode .readingBody header.bodySize
    connection.assemble header body limit

/-- Close the connection. -/
def close (connection : Connection σ) : Action σ Unit := modify connection.shut

/-- Get an empty buffer with room for so many bytes. -/
def borrowBuffer (connection : Connection σ) (size : Nat) : Action σ Buffer := do
  if (← get).hasStream then connection.spareBuffer size
  else throw (.invalidState .notOpened)

/-- Send bytes as they are. -/
def send (connection : Connection σ) (mode : Mode) (bytes : Bytes) (requestId : UInt32) :
    Action σ Unit := do
  connection.requireStream
  modify fun state =>
    state.log .trace "sending message"
      [("request_id", toString requestId.toNat), ("length", toString bytes.length)]
  connection.closingOnFailure <|
    connection.call mode .writing (.wrote bytes) (connection.transport.write mode bytes)

/-- Whether a response answers a request. -/
def checkAnswers (response : Response) (responseTo : UInt32) : Except LinkError Response :=
  if response.header.responseTo = responseTo then .ok response
  else .error (.protocolFraming (.wrongResponse response.header.responseTo responseTo))

/-- Receive the message that answers a request. -/
def receive (connection : Connection σ) (mode : Mode) (responseTo : UInt32) :
    Action σ Response := do
  connection.requireStream
  let limit := (← get).profile.limits.messageSize
  connection.closingOnFailure do
    let response ← connection.receiveWithin mode limit
    passing response.body (checkAnswers response responseTo)

end CommandLink.Connection
