/-!
# What is wrong with a message

The causes behind the errors of a connection, each with the facts that its
wording tells. A `stated` cause carries wording made elsewhere: by a transport
or by a caller's decoder.
-/

namespace CommandLink

/-- Lengths, opcodes or sections that do not agree with the bytes received. -/
inductive FramingFault where
  | shortHeader (received : Nat)
  | lengthBelowHeader (length : Nat)
  | lengthAboveLimit (length limit : Nat)
  | shortEnvelope (received : Nat)
  | bodyCutShort (address detail : String)
  | bodyMismatch (length declared received : Nat)
  | oversizedContent (size limit : Nat)
  | undecompressed (compressor detail : String)
  | wrongResponse (responseTo requestId : UInt32)
  | shortMsg (received : Nat)
  | unexpectedSection (kind : Nat)
  | shortReply (received : Nat)
  | noDocuments
  | noDocumentAt (offset remaining : Nat)
  | documentOverflow (declared : Int) (remaining : Nat)
  | unexpectedOpcode (opcode : Int)
  | stated (text : String)
  deriving DecidableEq, Repr

/-- The wording of a framing fault. -/
def FramingFault.message : FramingFault → String
  | shortHeader n => s!"incomplete message header: expected 16 bytes, got {n}"
  | lengthBelowHeader n => s!"message length {n} is smaller than the 16 byte header"
  | lengthAboveLimit n limit =>
    s!"message length {n} is larger than the maximum message length {limit}"
  | shortEnvelope n => s!"incomplete compressed header: expected 9 bytes, got {n}"
  | bodyCutShort address detail =>
    s!"unexpected end of stream from {address} while reading the message body: {detail}"
  | bodyMismatch n declared received =>
    s!"message length {n} declares {declared} body bytes but {received} were received"
  | oversizedContent size limit =>
    s!"uncompressed size {size} is larger than the maximum message length {limit}"
  | undecompressed compressor detail => s!"{compressor} decompression failed: {detail}"
  | wrongResponse responseTo requestId =>
    s!"the responseTo ({responseTo}) in the response does not match the requestId ({requestId}) in the request"
  | shortMsg n => s!"OP_MSG body of {n} bytes is too short"
  | unexpectedSection kind => s!"expected a body section, got section kind {kind}"
  | shortReply n => s!"OP_REPLY body of {n} bytes is too short"
  | noDocuments => "reply contains no documents"
  | noDocumentAt offset remaining =>
    s!"expected a document at offset {offset}, only {remaining} bytes remain"
  | documentOverflow declared remaining =>
    s!"document length {declared} does not fit in the {remaining} remaining bytes"
  | unexpectedOpcode opcode => s!"unexpected reply opcode {opcode}"
  | stated text => text

/-- Why a command cannot be put on the wire. -/
inductive EncodeFault where
  | unwritableCommand
  | unwritableValue
  | documentTooLarge (size limit : Nat)
  | messageTooLarge (size limit : Nat)
  | compressedTooLarge (size limit : Nat)
  | unpackable (detail : String)
  | stated (text : String)
  deriving DecidableEq, Repr

/-- The wording of an encoding fault. -/
def EncodeFault.message : EncodeFault → String
  | unwritableCommand => "command encoding failed: a name contains a zero byte"
  | unwritableValue => "document encoding failed: the value is not a document"
  | documentTooLarge size limit =>
    s!"command document of {size} bytes exceeds the maximum document size {limit}"
  | messageTooLarge size limit =>
    s!"message of {size} bytes exceeds the maximum message size {limit}"
  | compressedTooLarge size limit =>
    s!"compressed message of {size} bytes exceeds the maximum message size {limit}"
  | unpackable detail => s!"compression failed: {detail}"
  | stated text => text

/-- Why a reply document cannot be read. -/
inductive DecodeFault where
  | malformedReply
  | undecodable
  | notOfType (type : String)
  | stated (text : String)
  deriving DecidableEq, Repr

/-- The wording of a decoding fault. -/
def DecodeFault.message : DecodeFault → String
  | malformedReply => "malformed reply document: the elements cannot be told apart"
  | undecodable => "document decoding failed: a value cannot be read"
  | notOfType type => s!"decoding {type} failed: the fields do not fit"
  | stated text => text

/-- Why a compressor is not to be had. -/
inductive CompressorFault where
  | unknownName (name : String)
  | unknownId (id : Nat)
  | nothingShared (advertised : List String)
  | stated (text : String)
  deriving DecidableEq, Repr

/-- The wording of a compressor fault. -/
def CompressorFault.message : CompressorFault → String
  | unknownName name => name
  | unknownId id => s!"unsupported compressor with identifier {id}"
  | nothingShared advertised =>
    "unexpected compressor negotiated: " ++ ", ".intercalate advertised
  | stated text => text

/-- Operations that do not fit the state of a connection. -/
inductive Misuse where
  | alreadyOpened
  | notOpened
  | factoryMissing
  | stated (text : String)
  deriving DecidableEq, Repr

/-- The wording of a misuse. -/
def Misuse.message : Misuse → String
  | alreadyOpened => "the connection has already been opened"
  | notOpened => "the connection has not been opened"
  | factoryMissing => "a stream factory is required"
  | stated text => text

/-- What an operation met when it found its connection closed. -/
inductive Closure where
  | before
  | whileOpening
  | whilePending
  | stated (text : String)
  deriving DecidableEq, Repr

/-- The wording of a closure. -/
def Closure.message : Closure → String
  | before => "the connection is closed"
  | whileOpening => "the connection was closed while opening"
  | whilePending => "the connection was closed while an operation was pending"
  | stated text => text

end CommandLink
