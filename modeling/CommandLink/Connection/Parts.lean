import CommandLink.Connection.Dispatch

/-!
# Commands by parts

What a connection offers for messages is enough to put a command together by hand: its bytes are
sent, the message that answers it is received, and that is judged. The connection is then closed by
hand too, if the judgement is a failure.
-/

namespace CommandLink.Connection

open CommandLink.Action

variable {σ α : Type}

/-- What comes of the message that answers a command: its document decoded, if that reports success,
and otherwise the failure of which the document tells. -/
def judge (connection : Connection σ) (requestId : UInt32) (response : Response)
    (decode : RawDocument → Except LinkError α) : Except LinkError α := do
  let reply ← Reply.parse response.header response.body.bytes requestId
  if ← reply.document.reportsSuccess then decode reply.document
  else .error (.ofRefusal (← reply.document.toDocument) connection.address)

/-- Put a command into bytes, send them, receive the answer and judge it. -/
def commandByParts (connection : Connection σ) (mode : Mode) (message : Command)
    (decode : RawDocument → Except LinkError α) : Action σ α := do
  let state ← get
  let limits := state.profile.limits
  let encoded ← ofResult (message.encode limits)
  let bytes ← match state.sendCompressor with
    | none => pure encoded.bytes
    | some compressor =>
      if message.isSensitive then pure encoded.bytes
      else ofResult (encoded.compress compressor limits connection.packing)
  connection.send mode bytes message.requestId
  let response ← connection.receive mode message.requestId
  connection.closingOnFailure <|
    holding response.body (ofResult (connection.judge message.requestId response decode))

end CommandLink.Connection
