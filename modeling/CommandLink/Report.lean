import CommandLink.Buffer
import CommandLink.Connection.Plan
import CommandLink.Text.Quoted

/-!
# Reports

The form in which records are shown: the name of the record, then its fields
by name between braces. Texts are quoted.
-/

namespace CommandLink.Report

/-- A record of named fields. -/
def record (name : String) (fields : List (String × String)) : String :=
  let shown := fields.map fun (field, value) => field ++ ": " ++ value
  name ++ " \x7b " ++ ", ".intercalate shown ++ " \x7d"

/-- A list. -/
def list (items : List String) : String := "[" ++ ", ".intercalate items ++ "]"

/-- Something that may be missing. -/
def option : Option String → String
  | some value => "Some(" ++ value ++ ")"
  | none => "None"

/-- A truth value. -/
def bool (value : Bool) : String := if value then "true" else "false"

/-- An address. -/
def address (value : Address) : String :=
  record "ServerAddress"
    [("host", Text.quote value.host), ("port", toString value.port.toNat)]

/-- A server. -/
def server (value : Server) : String :=
  record "ServerId"
    [("cluster_id", Text.quote value.cluster), ("address", address value.address)]

/-- The identity of a connection. -/
def identity (value : ConnectionIdentity) : String :=
  record "ConnectionId"
    [ ("server_id", server value.server), ("local_value", toString value.ownNumber.toNat),
      ("server_value", option (value.serverNumber.map fun n => toString n.toInt)) ]

/-- A profile. -/
def profile (value : ConnectionProfile) : String :=
  record "ConnectionDescription"
    [ ("connection_id", identity value.connection),
      ("server_type", value.role.label),
      ("max_document_size", toString value.limits.documentSize),
      ("max_message_size", toString value.limits.messageSize),
      ("max_batch_count", toString value.limits.batchCount),
      ("compressors", list (value.compressors.map Text.quote)) ]

/-- A compressor. -/
def compressor (value : Compressor) : String :=
  "BoxedCompressor(" ++ Text.quote value.name ++ ", " ++ toString value.id.toNat ++ ")"

/-- A configured compressor. -/
def choice (value : CompressorChoice) : String :=
  record "CompressorSpec" [("kind", value.method.label), ("level", value.level.label)]

/-- The compressors of a connection, in order and by number. -/
def selection (value : CompressorSelection) : String :=
  let numbers := (value.ordered.map Compressor.id).eraseDups
  let entries := numbers.filterMap fun id =>
    (value.get? id).map fun found => toString id.toNat ++ ": " ++ compressor found
  record "CompressorRegistry"
    [ ("ordered", list (value.ordered.map compressor)),
      ("by_id", "\x7b" ++ ", ".intercalate entries ++ "\x7d") ]

/-- A connection in a state. -/
def connection {σ : Type} (value : Connection σ) (state : ConnectionStatus σ) : String :=
  record "InternalStreamConnection"
    [ ("server_id", server value.server), ("state", state.phase.label),
      ("description", profile state.profile),
      ("send_compressor", option (state.sendCompressor.map compressor)),
      ("compressors", selection value.compressors),
      ("listener", bool value.listener.isSome) ]

/-- A plan. -/
def plan {σ : Type} (value : ConnectionPlan σ) : String :=
  record "ConnectionBuilder"
    [ ("server_id", server value.server), ("stream_factory", bool value.transport.isSome),
      ("compressors", list (value.compressors.map choice)),
      ("listener", bool value.listener.isSome), ("initializer", bool value.initializer.isSome),
      ("application_name", option (value.applicationName.map Text.quote)) ]

/-- A buffer. -/
def buffer (value : Buffer) : String :=
  record "ByteBuf" [("len", toString value.bytes.length), ("pooled", bool value.isLent)]

/-- The header of an inbound message. -/
def inboundHeader (value : InboundHeader) : String :=
  record "ReplyHeader"
    [ ("message_length", toString value.messageLength.toNat),
      ("request_id", toString value.requestId.toNat),
      ("response_to", toString value.responseTo.toNat),
      ("op_code", toString value.opcode.toInt), ("compressed", bool value.compressed) ]

/-- A response. -/
def response (value : Response) : String :=
  record "ResponseBuffers" [("header", inboundHeader value.header), ("body", buffer value.body)]

/-- A decoder that reads replies into records of a named type. -/
def recordDecoder (type : String) : String := record "SerdeDecoder" [("type", Text.quote type)]

/-- The decoder that reads replies into documents. -/
def decoder : String := "DocumentDecoder"

end CommandLink.Report
