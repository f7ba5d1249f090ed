import CommandLink.Bson.Encode
import CommandLink.Command.Name
import CommandLink.Compressor
import CommandLink.Frame.Envelope
import CommandLink.Message.CollectionName
import CommandLink.Message.Limits

/-!
# Commands on the wire

A command is put on the wire in one of two forms. The present one carries flags
and one section, whose document also names the database; the legacy one names
the command collection in front of the document. Either may then be wrapped in
an envelope. Sizes are checked before anything is sent.
-/

namespace CommandLink

/-- The two forms of a command. -/
inductive CommandForm where
  | msg
  | legacyQuery
  deriving DecidableEq, Repr

/-- The name of a form in a report. -/
def CommandForm.label : CommandForm → String
  | msg => "Msg"
  | legacyQuery => "LegacyQuery"

/-- The opcode of a form. -/
def CommandForm.opcode : CommandForm → Opcode
  | msg => .msg
  | legacyQuery => .query

/-- A command to be sent, with the id that its reply will answer. -/
structure Command where
  requestId : UInt32
  space : CollectionName
  command : Document
  form : CommandForm

/-- A message ready to be sent, and where its document starts. -/
structure OutboundMessage where
  requestId : UInt32
  opcode : Int32
  bytes : Bytes
  documentPosition : Nat

namespace Command

/-- A command for a database, in the present form. -/
def ofCommand (requestId : UInt32) (database : String) (command : Document) : Command :=
  ⟨requestId, .ofCommand database, command, .msg⟩

/-- The same command in the legacy form. -/
def legacy (message : Command) : Command := { message with form := .legacyQuery }

/-- The name of the command, empty when it has none. -/
def name (message : Command) : String := message.command.name?.getD ""

/-- Whether the command carries credentials. -/
def isSensitive (message : Command) : Bool := CommandLink.isSensitive message.name

/-- The opcode of the message. -/
def opcode (message : Command) : Opcode := message.form.opcode

/-- The key under which the present form names the database. -/
def databaseKey : String := "$db"

/-- What stands between the header and the document. -/
def preamble (message : Command) : Bytes :=
  match message.form with
  | .msg => Bytes.ofUInt32 0 ++ [0]
  | .legacyQuery =>
    Bytes.ofInt32 0 ++ Bytes.ofText message.space.qualified ++ [0] ++ Bytes.ofInt32 0
      ++ Bytes.ofInt32 (-1)

/-- The document that is sent: the present form names the database, unless the
command does so itself. -/
def document (message : Command) : Document :=
  match message.form with
  | .msg =>
    if message.command.has databaseKey then message.command
    else message.command ++ [(databaseKey, .string message.space.database)]
  | .legacyQuery => message.command

/-- The header of the message at a given length. -/
def header (message : Command) (length : Nat) : Header :=
  ⟨UInt32.ofNat length, message.requestId, 0, message.opcode.value⟩

/-- Put the command into bytes. The header is written with no length first and
again once the length is known. -/
def encode (message : Command) (limits : MessageLimits) :
    Except LinkError OutboundMessage :=
  let front := (message.header 0).encode ++ message.preamble
  match message.document.encode? with
  | none => .error (.encode .unwritableCommand)
  | some document =>
    let size := document.length
    let bytes := front ++ document
    let length := bytes.length
    if limits.documentSize < size then
      .error (.encode (.documentTooLarge size limits.documentSize))
    else if limits.messageSize < length then
      .error (.encode (.messageTooLarge length limits.messageSize))
    else
      .ok
        { requestId := message.requestId
          opcode := message.opcode.value
          bytes := (message.header length).overFront bytes
          documentPosition := front.length }

end Command

namespace OutboundMessage

/-- What follows the header. -/
def body (message : OutboundMessage) : Bytes := message.bytes.drop Header.size

/-- The header of the envelope at a given length. It keeps the id of the
message. -/
def envelopeHeader (message : OutboundMessage) (compressor : Compressor) (length : Nat) :
    EnvelopeHeader :=
  { innerOpcode := message.opcode
    uncompressedSize := UInt32.ofNat message.body.length
    compressorId := compressor.id
    outer := ⟨UInt32.ofNat length, message.requestId, 0, Opcode.compressed.value⟩ }

/-- Wrap the message in an envelope. -/
def compress (message : OutboundMessage) (compressor : Compressor) (limits : MessageLimits)
    (packing : Packing := .plain) : Except LinkError Bytes :=
  match compressor.pack packing message.body with
  | .error fault => .error (.encode (.unpackable fault.message))
  | .ok packed =>
    let length := Header.size + EnvelopeHeader.size + packed.length
    if limits.messageSize < length then
      .error (.encode (.compressedTooLarge length limits.messageSize))
    else
      let envelope := message.envelopeHeader compressor length
      .ok (envelope.outer.encode ++ envelope.encode ++ packed)

end OutboundMessage

end CommandLink
