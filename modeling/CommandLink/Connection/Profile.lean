import CommandLink.Bson.Value
import CommandLink.Connection.Identity
import CommandLink.Message.Limits

/-!
# What is known of a server

Before a connection is set up its server is unknown and the usual limits are
assumed. The server's answer to the opening command tells the rest. Where it
leaves a limit out, or does not tell it as a number that can be a size, the
limits of a document and of a batch stay as they were, and that of a message
goes back to the usual one. The id of the connection stays as it was, while the
role and the compressors are always taken from the answer.
-/

namespace CommandLink

/-- The kinds of servers. -/
inductive ServerRole where
  | standalone
  | replicaSetPrimary
  | replicaSetSecondary
  | shardRouter
  | unknown
  deriving DecidableEq, Repr

namespace ServerRole

/-- The name of a kind in a report. -/
def label : ServerRole → String
  | standalone => "Standalone"
  | replicaSetPrimary => "ReplicaSetPrimary"
  | replicaSetSecondary => "ReplicaSetSecondary"
  | shardRouter => "ShardRouter"
  | unknown => "Unknown"

/-- The kind of a given name. -/
def ofLabel? (label : String) : Option ServerRole :=
  [standalone, replicaSetPrimary, replicaSetSecondary, shardRouter, unknown].find?
    (·.label = label)

/-- The kind of server that gave an answer. -/
def ofReply (reply : Document) : ServerRole :=
  if (reply.get? "msg").bind Bson.text? = some "isdbgrid" then shardRouter
  else if reply.has "setName" then
    if (reply.get? "ismaster").bind Bson.boolean? = some true then replicaSetPrimary
    else if (reply.get? "secondary").bind Bson.boolean? = some true then replicaSetSecondary
    else unknown
  else standalone

end ServerRole

/-- A number as a 64-bit integer, a double cut off. -/
def Bson.number? : Bson → Option Int64
  | .int32 value => some value.toInt64
  | .int64 value => some value
  | .double bits => some bits.toInt64
  | _ => none

/-- A number that can be a size. -/
def Bson.size? (value : Bson) : Option Nat :=
  value.number?.bind fun n => if 0 ≤ n.toInt then some n.toInt.toNat else none

/-- What is known of a connection's server. -/
structure ConnectionProfile where
  connection : ConnectionIdentity
  role : ServerRole
  limits : MessageLimits
  compressors : List String
  deriving DecidableEq, Repr

namespace ConnectionProfile

/-- The profile of a connection before it is set up. -/
def initial (connection : ConnectionIdentity) : ConnectionProfile :=
  ⟨connection, .unknown, .initial, []⟩

/-- The address of the server. -/
def address (profile : ConnectionProfile) : Address :=
  profile.connection.server.address

/-- A size that a reply tells under a key. -/
def sizeIn? (reply : Document) (key : String) : Option Nat := (reply.get? key).bind Bson.size?

/-- The compressors that a reply advertises. -/
def advertised (reply : Document) : List String :=
  (((reply.get? "compression").bind Bson.array?).getD []).filterMap Bson.text?

/-- The profile after the server's answer to the opening command. -/
def ofReply (current : ConnectionProfile) (reply : Document) : ConnectionProfile :=
  { connection := match (reply.get? "connectionId").bind Bson.number? with
      | some value => current.connection.knownAs value
      | none => current.connection
    role := .ofReply reply
    limits :=
      { documentSize := (sizeIn? reply "maxBsonObjectSize").getD current.limits.documentSize
        messageSize := (sizeIn? reply "maxMessageSizeBytes").getD MessageLimits.initial.messageSize
        batchCount := (sizeIn? reply "maxWriteBatchSize").getD current.limits.batchCount }
    compressors := advertised reply }

end ConnectionProfile

end CommandLink
