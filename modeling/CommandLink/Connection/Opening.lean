import CommandLink.Connection.Dispatch

/-!
# Opening a connection

A connection is opened at most once: its stream is made and opened, the server
is asked for its profile, and the compressor for sending is chosen. Any
failure on the way leaves the connection closed.
-/

namespace CommandLink.Connection

open CommandLink.Action

variable {σ : Type}

/-- Hand out the number of a request. -/
def takeRequestId : Action σ UInt32 := do
  let (id, counters) := (← get).counters.takeRequest
  modify fun state => { state with counters }
  pure id

/-- A command for a database, under a fresh request id. -/
def newCommand (database : String) (command : Document) : Action σ Command := do
  pure (.ofCommand (← takeRequestId) database command)

/-- Make the stream. The connection may have been closed before it was there. -/
def begin (connection : Connection σ) : Action σ Unit := do
  match (← get).phase with
  | .closed => throw (connection.closedError .before)
  | .opening => throw (.invalidState .alreadyOpened)
  | .opened => throw (.invalidState .alreadyOpened)
  | .unopened =>
    modify fun state => { state with phase := .opening }
    connection.closingOnFailure <|
      connection.call .blocking .opening .created (connection.transport.create connection.address)
    modify fun state => { state with hasStream := true }
    if (← get).isClosed then
      modify connection.shutStream
      throw (connection.closedError .whileOpening)

/-- Take the profile that was prepared. -/
def prepare (connection : Connection σ) (closes : Bool)
    (describe : ConnectionProfile → Except LinkError ConnectionProfile) :
    Action σ ConnectionProfile := do
  if closes then connection.close
  ofResult (describe (← get).profile)

/-- Learn the profile of the server. -/
def describe (connection : Connection σ) (mode : Mode) : Action σ ConnectionProfile := do
  match connection.initializer with
  | .handshake handshake =>
    let message := handshake.message (← takeRequestId)
    let reply ← connection.command mode message RawDocument.toDocument
    pure ((← get).profile.ofReply reply)
  | .prepared closes describe => connection.prepare closes describe

/-- Take over a profile, choose the compressor for sending and be open. -/
def adopt (connection : Connection σ) (profile : ConnectionProfile) :
    Action σ Unit := do
  let sendCompressor ← ofResult (connection.compressors.select profile.compressors)
  modify fun state => { state with profile, sendCompressor }
  if (← get).phase = .opening then modify fun state => { state with phase := .opened }
  else throw (connection.closedError .whileOpening)

/-- The particulars of an open connection for the log. -/
def openedFields (state : ConnectionStatus σ) : List (String × String) :=
  [ ("connection", state.profile.connection.text),
    ("server_type", state.profile.role.label) ]
  ++ match state.sendCompressor with
    | some compressor => [("compressor", compressor.name)]
    | none => []

/-- Open the connection. -/
def establish (connection : Connection σ) (mode : Mode) : Action σ Unit := do
  connection.begin
  connection.closingOnFailure do
    connection.call mode .opening .connected (connection.transport.connect mode)
    connection.adopt (← connection.describe mode)
  modify fun state => state.log .info "opened connection" (openedFields state)

end CommandLink.Connection
