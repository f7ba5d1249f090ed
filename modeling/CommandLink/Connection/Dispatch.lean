import CommandLink.Connection.Exchange
import CommandLink.Message.Reply

/-!
# Commands over a connection

A command is put into bytes, sent, and its reply received, checked and decoded.
Until the bytes are there nothing has happened; from then on any failure closes
the connection. The listener hears of commands only while the connection is
open, so not of the opening command.
-/

namespace CommandLink.Connection

open CommandLink.Action

variable {σ α : Type}

/-- The bytes that go out for a command: in an envelope if a compressor has been
negotiated, but never when the command carries credentials. -/
def outgoing (connection : Connection σ) (state : ConnectionStatus σ) (message : Command) :
    Except LinkError Bytes := do
  let limits := state.profile.limits
  let encoded ← message.encode limits
  match state.sendCompressor with
  | none => .ok encoded.bytes
  | some compressor =>
    if message.isSensitive then .ok encoded.bytes
    else encoded.compress compressor limits connection.packing

/-- Who hears of commands at present. -/
def audience (connection : Connection σ) (state : ConnectionStatus σ) : Option Listener :=
  if state.isOpen then connection.listener else none

/-- A command under way: its identity and who hears of it. -/
structure Dispatch where
  identity : CommandIdentity
  audience : Option Listener

/-- A message that is about to be sent as a command under way. -/
def dispatch (connection : Connection σ) (state : ConnectionStatus σ) (message : Command) :
    Dispatch :=
  ⟨CommandIdentity.ofMessage state.profile.connection message, connection.audience state⟩

/-- Check the reply to a command and decode it. -/
def complete (connection : Connection σ) (dispatch : Dispatch) (response : Response)
    (decode : RawDocument → Except LinkError α) : Action σ α := do
  let reply ← ofResult
    (Reply.parse response.header response.body.bytes dispatch.identity.requestId)
  let success ← ofResult reply.document.reportsSuccess
  if success then
    modify fun state =>
      state.tell dispatch.audience (dispatch.identity.succeeded reply.document)
    ofResult (decode reply.document)
  else
    let document ← ofResult reply.document.toDocument
    throw (.ofRefusal document connection.address)

/-- Tell of a failure and close the connection. -/
def failing (connection : Connection σ) (dispatch : Dispatch) (operation : Action σ α) :
    Action σ α := fun state =>
  match operation state with
  | .ok value state => .ok value state
  | .error error state =>
    .error error
      (connection.shut (state.tell dispatch.audience (dispatch.identity.failed error)))

/-- Hand over the bytes of a command under way, receive its reply and decode it. -/
def converse (connection : Connection σ) (mode : Mode) (dispatch : Dispatch) (bytes : Bytes)
    (limit : Nat) (decode : RawDocument → Except LinkError α) : Action σ α :=
  connection.failing dispatch do
    connection.call mode .writing (.wrote bytes) (connection.transport.write mode bytes)
    let response ← connection.receiveWithin mode limit
    holding response.body (connection.complete dispatch response decode)

/-- Send a command and decode its reply. -/
def command (connection : Connection σ) (mode : Mode) (message : Command)
    (decode : RawDocument → Except LinkError α) : Action σ α := do
  connection.requireStream
  let state ← get
  let bytes ← ofResult (connection.outgoing state message)
  let dispatch := connection.dispatch state message
  modify fun state => state.tell dispatch.audience (dispatch.identity.started message)
  connection.converse mode dispatch bytes state.profile.limits.messageSize decode

end CommandLink.Connection
