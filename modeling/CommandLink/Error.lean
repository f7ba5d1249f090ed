import CommandLink.Address
import CommandLink.Bson.Value
import CommandLink.Error.Fault
import CommandLink.Error.Kind

/-!
# Errors of a connection

A transport reports its failures in its own terms. It may also hand back an
error of the connection itself, carried inside one of its own; unwrapping
gives that error back unchanged.
-/

namespace CommandLink

mutual

/-- A failure as a transport reports it: one of its own, or an error of the
connection carried inside. -/
inductive TransportError where
  | plain (kind : FailureKind) (text : String)
  | carried (error : LinkError)

/-- The single error type of a connection's operations. -/
inductive LinkError where
  | closed (address : Address) (closure : Closure)
  | readTimeout (address : Address) (source : TransportError)
  | readFailure (address : Address) (source : TransportError)
  | writeFailure (address : Address) (source : TransportError)
  | openFailure (address : Address) (source : TransportError)
  | interrupted (text : String) (source : Option TransportError)
  | unexpectedInternal (text : String) (source : Option TransportError)
  | commandFailure (code : Int32) (codeName : Option String) (text : String)
      (address : Address) (response : Document)
  | unsupportedCompressor (fault : CompressorFault)
  | protocolFraming (fault : FramingFault)
  | invalidState (misuse : Misuse)
  | encode (fault : EncodeFault)
  | decode (fault : DecodeFault)

end

instance : Inhabited TransportError := ⟨.plain .other ""⟩

instance : Inhabited LinkError := ⟨.unexpectedInternal "" none⟩

/-- The kind of an error, without its particulars. -/
inductive LinkErrorKind where
  | closedConnection
  | readTimeout
  | readFailure
  | writeFailure
  | interrupted
  | commandFailure
  | unexpectedInternal
  | unsupportedCompressor
  | protocolFraming
  | openFailure
  | invalidState
  | encode
  | decode
  deriving DecidableEq, Repr

namespace LinkErrorKind

/-- The name of a kind in a report. -/
def label : LinkErrorKind → String
  | closedConnection => "ClosedConnection"
  | readTimeout => "ReadTimeout"
  | readFailure => "ReadFailure"
  | writeFailure => "WriteFailure"
  | interrupted => "Interrupted"
  | commandFailure => "CommandFailure"
  | unexpectedInternal => "UnexpectedInternal"
  | unsupportedCompressor => "UnsupportedCompressor"
  | protocolFraming => "ProtocolFraming"
  | openFailure => "OpenFailure"
  | invalidState => "InvalidState"
  | encode => "Encode"
  | decode => "Decode"

/-- The identifier of a kind. -/
def identifier : LinkErrorKind → String
  | closedConnection => "closed_connection"
  | readTimeout => "read_timeout"
  | readFailure => "read_failure"
  | writeFailure => "write_failure"
  | interrupted => "interrupted"
  | commandFailure => "command_failure"
  | unexpectedInternal => "unexpected_internal"
  | unsupportedCompressor => "unsupported_compressor"
  | protocolFraming => "protocol_framing"
  | openFailure => "open_failure"
  | invalidState => "invalid_state"
  | encode => "encode"
  | decode => "decode"

end LinkErrorKind

namespace LinkError

/-- The kind of an error. -/
def kind : LinkError → LinkErrorKind
  | closed _ _ => .closedConnection
  | readTimeout _ _ => .readTimeout
  | readFailure _ _ => .readFailure
  | writeFailure _ _ => .writeFailure
  | openFailure _ _ => .openFailure
  | interrupted _ _ => .interrupted
  | unexpectedInternal _ _ => .unexpectedInternal
  | commandFailure _ _ _ _ _ => .commandFailure
  | unsupportedCompressor _ => .unsupportedCompressor
  | protocolFraming _ => .protocolFraming
  | invalidState _ => .invalidState
  | encode _ => .encode
  | decode _ => .decode

/-- The text of an error. The text of a source is not part of it. -/
def message : LinkError → String
  | closed address closure => s!"connection to {address} is closed: {closure.message}"
  | readTimeout address _ => s!"timeout while receiving message from {address}"
  | readFailure address _ => s!"exception receiving message from {address}"
  | writeFailure address _ => s!"exception sending message to {address}"
  | openFailure address _ => s!"exception opening socket to {address}"
  | interrupted text _ => s!"interrupted: {text}"
  | unexpectedInternal text _ => s!"unexpected internal error: {text}"
  | commandFailure code _ text address _ =>
    "command failed with error " ++ toString code ++ ": '" ++ text ++ "' on server " ++ address.text
  | unsupportedCompressor fault => s!"unsupported compressor: {fault.message}"
  | protocolFraming fault => s!"protocol error: {fault.message}"
  | invalidState misuse => s!"invalid state: {misuse.message}"
  | encode fault => s!"encode error: {fault.message}"
  | decode fault => s!"decode error: {fault.message}"

/-- The failure of the transport behind an error. -/
def source? : LinkError → Option TransportError
  | readTimeout _ source => some source
  | readFailure _ source => some source
  | writeFailure _ source => some source
  | openFailure _ source => some source
  | interrupted _ source => source
  | unexpectedInternal _ source => source
  | _ => none

/-- The server's error code, when the server refused a command. -/
def code? : LinkError → Option Int32
  | commandFailure code _ _ _ _ => some code
  | _ => none

/-- The code in an error document: a number that is a 32-bit integer, and -1
for anything else. -/
def codeOf (response : Document) : Int32 :=
  let narrow (value : Int) : Int32 :=
    if Int32.minValue.toInt ≤ value ∧ value ≤ Int32.maxValue.toInt then Int32.ofInt value else -1
  match response.get? "code" with
  | some (.int32 code) => code
  | some (.int64 code) => narrow code.toInt
  | some (.double bits) => match Binary64.toInt? bits with
    | some code => narrow code
    | none => -1
  | _ => -1

/-- The error behind a reply that refuses a command. -/
def ofRefusal (response : Document) (address : Address) : LinkError :=
  commandFailure (codeOf response) ((response.get? "codeName").bind Bson.text?)
    (((response.get? "errmsg").bind Bson.text?).getD "") address response

/-- The error without what the server told: of a refusal only the code and the
address stay. -/
def withoutDetail : LinkError → LinkError
  | commandFailure code _ _ address _ => commandFailure code none "" address []
  | error => error

end LinkError

namespace TransportError

/-- The kind of a transport's failure. A carried error has none of its own. -/
def kind : TransportError → FailureKind
  | plain kind _ => kind
  | carried _ => .other

/-- The error of the connection that a failure carries. -/
def carried? : TransportError → Option LinkError
  | plain _ _ => none
  | carried error => some error

/-- The text of a transport's failure. -/
def message : TransportError → String
  | plain _ text => text
  | carried error => error.message

end TransportError

end CommandLink
