import CommandLink.Connection.Exchange
import CommandLink.Message.Reply

/-!
# Receiving, strictly

Numbers here are without bounds, and a slice of a list is cut off where the list ends. A strict
operation knows neither: it runs out of range where a number would fall below zero or outgrow a
machine word, and where a byte or a slice is not all there. This is the receiving of messages
and the reading of replies by strict operations alone.
-/

namespace CommandLink

/-- How a strict operation fails: with the error of its plain form, or by running out of range. -/
inductive Mishap where
  | failed (error : LinkError)
  | outOfRange

namespace Strict

/-- A difference that does not fall below zero. -/
def minus (a b : Nat) : Except Mishap Nat :=
  if b ≤ a then .ok (a - b) else .error .outOfRange

/-- A sum that fits a word, of the smallest size that machines have. -/
def plus (a b : Nat) : Except Mishap Nat :=
  if a + b < UInt32.size then .ok (a + b) else .error .outOfRange

/-- The byte at an index. -/
def byte (bytes : Bytes) (index : Nat) : Except Mishap UInt8 :=
  match bytes[index]? with
  | some byte => .ok byte
  | none => .error .outOfRange

/-- The bytes from a start to a stop. -/
def slice (bytes : Bytes) (start stop : Nat) : Except Mishap Bytes :=
  if start ≤ stop ∧ stop ≤ bytes.length then .ok ((bytes.drop start).take (stop - start))
  else .error .outOfRange

/-- The 32-bit unsigned field at an offset, byte by byte. -/
def word (bytes : Bytes) (offset : Nat) : Except Mishap UInt32 := do
  let first ← byte bytes offset
  let second ← byte bytes (← plus offset 1)
  let third ← byte bytes (← plus offset 2)
  let fourth ← byte bytes (← plus offset 3)
  .ok (Bytes.toUInt32 [first, second, third, fourth])

/-- A computation whose errors are those of a plain one. -/
def plain {α : Type} (result : Except LinkError α) : Except Mishap α := result.mapError .failed

end Strict

open Strict

/-- Read a header whose message may be `limit` bytes long. -/
def Header.decodeStrictly (data : Bytes) (limit : Nat) : Except Mishap Header := do
  if ¬ data.holds size then
    .error (.failed (.protocolFraming (.shortHeader data.length)))
  else
    let front ← slice data 0 size
    let header : Header :=
      ⟨← word front 0, ← word front 4, ← word front 8, (← word front 12).toInt32⟩
    let length := header.messageLength.toNat
    if length < size then .error (.failed (.protocolFraming (.lengthBelowHeader length)))
    else if limit < length then
      .error (.failed (.protocolFraming (.lengthAboveLimit length limit)))
    else .ok header

/-- How many bytes follow the header. -/
def Header.bodySizeStrictly (header : Header) : Except Mishap Nat :=
  minus header.messageLength.toNat size

/-- Read the front of an envelope's body. -/
def EnvelopeHeader.decodeStrictly (body : Bytes) (outer : Header) :
    Except Mishap EnvelopeHeader := do
  if ¬ body.holds size then
    .error (.failed (.protocolFraming (.shortEnvelope body.length)))
  else
    let front ← slice body 0 size
    .ok ⟨(← word front 0).toInt32, ← word front 4, ← byte front 8, outer⟩

namespace Reply

/-- The document at an offset. Its length field has to fit into what remains. -/
def documentStrictlyAt (body : Bytes) (offset : Nat) : Except Mishap RawDocument := do
  let remaining := body.length - offset
  if remaining < 5 then
    .error (.failed (.protocolFraming (.noDocumentAt offset remaining)))
  else
    let declared : Int := (← word body offset).toInt32.toInt
    if declared < 5 ∨ remaining < declared then
      .error (.failed (.protocolFraming (.documentOverflow declared remaining)))
    else
      match RawDocument.ofBytes? (← slice body offset (← plus offset declared.toNat)) with
      | some document => .ok document
      | none => .error (.failed (.decode .malformedReply))

/-- The document of a reply in the present form. -/
def msgDocumentStrictly (body : Bytes) : Except Mishap RawDocument := do
  if body.length < 5 then .error (.failed (.protocolFraming (.shortMsg body.length)))
  else
    let flags ← word body 0
    let stop := if flags &&& 1 ≠ 0 then body.length - 4 else body.length
    let kind ← byte body 4
    if kind ≠ 0 then .error (.failed (.protocolFraming (.unexpectedSection kind.toNat)))
    else documentStrictlyAt (← slice body 0 stop) 5

/-- The first document of a reply in the legacy form. -/
def legacyDocumentStrictly (body : Bytes) : Except Mishap RawDocument := do
  if body.length < legacyPreamble then
    .error (.failed (.protocolFraming (.shortReply body.length)))
  else
    let count ← word body 16
    if count.toInt32.toInt < 1 then .error (.failed (.protocolFraming .noDocuments))
    else documentStrictlyAt body legacyPreamble

/-- Find the document of the reply to a request. -/
def parseStrictly (header : InboundHeader) (body : Bytes) (requestId : UInt32) :
    Except Mishap Reply := do
  if header.responseTo ≠ requestId then
    .error (.failed (.protocolFraming (.wrongResponse header.responseTo requestId)))
  else if header.opcode = Opcode.msg.value then .ok ⟨header, ← msgDocumentStrictly body⟩
  else if header.opcode = Opcode.reply.value then .ok ⟨header, ← legacyDocumentStrictly body⟩
  else .error (.failed (.protocolFraming (.unexpectedOpcode header.opcode.toInt)))

end Reply

/-- An operation of a connection that may run out of range. -/
abbrev StrictAction (σ α : Type) : Type := EStateM Mishap (ConnectionStatus σ) α

namespace StrictAction

variable {σ α : Type}

/-- An action that has nothing to run out of. -/
def ofAction (operation : Action σ α) : StrictAction σ α := fun state =>
  match operation state with
  | .ok value next => .ok value next
  | .error error next => .error (.failed error) next

/-- Fail unless a computation has a result. -/
def ofResult (result : Except Mishap α) : StrictAction σ α :=
  match result with
  | .ok value => pure value
  | .error mishap => throw mishap

/-- Do something with a buffer and let go of it, whatever comes of it. -/
def holding (buffer : Buffer) (operation : StrictAction σ α) : StrictAction σ α := fun state =>
  match operation state with
  | .ok value state => .ok value (state.drop buffer)
  | .error mishap state => .error mishap (state.drop buffer)

end StrictAction

namespace Connection

open StrictAction

variable {σ : Type}

/-- Unpack an envelope into a buffer of its own. -/
def unpackStrictly (connection : Connection σ) (header : Header) (body : Bytes) (limit : Nat) :
    StrictAction σ Response := do
  let envelope ← ofResult (EnvelopeHeader.decodeStrictly body header)
  let (compressor, size) ← ofAction (.ofResult (connection.planUnpacking envelope limit))
  let spare ← ofAction (connection.spareBuffer size)
  let packed ← ofResult (slice body EnvelopeHeader.size body.length)
  let fill := compressor.uncompress packed size spare.bytes
  let target := { spare with bytes := fill.buffer }
  ofAction <| .passing target <|
    match fill.result with
    | .ok _ => .ok ⟨envelope.toInbound, target⟩
    | .error fault => .error (.protocolFraming (.undecompressed compressor.name fault.message))

/-- The message of a header and a body, out of its envelope if it came in
one. -/
def assembleStrictly (connection : Connection σ) (header : Header) (body : Buffer) (limit : Nat) :
    StrictAction σ Response := do
  let bodySize ← ofResult header.bodySizeStrictly
  if body.bytes.length ≠ bodySize then
    ofAction (.passing body (.error (.protocolFraming
      (.bodyMismatch header.messageLength.toNat bodySize body.bytes.length))))
  else if header.isEnvelope then
    holding body (connection.unpackStrictly header body.bytes limit)
  else
    pure ⟨header.toInbound, body⟩

/-- Receive a message of at most so many bytes. -/
def receiveStrictlyWithin (connection : Connection σ) (mode : Mode) (limit : Nat) :
    StrictAction σ Response := do
  modify fun state =>
    state.log .trace "receiving message" [("address", connection.address.text)]
  let front ← ofAction (connection.readBuffer mode .readingHeader Header.size)
  holding front do
    let header ← ofResult (Header.decodeStrictly front.bytes limit)
    let bodySize ← ofResult header.bodySizeStrictly
    let body ← ofAction (connection.readBuffer mode .readingBody bodySize)
    connection.assembleStrictly header body limit

end Connection

end CommandLink
