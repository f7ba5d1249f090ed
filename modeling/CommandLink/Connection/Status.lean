import CommandLink.Buffer
import CommandLink.Compressor.Selection
import CommandLink.Connection.Event
import CommandLink.Connection.Handshake
import CommandLink.Transport
import CommandLink.Transport.Failure

/-!
# Connections and their states

A connection is built once and goes from unopened over opening to open, and
from any of these to closed, where it stays. Beside its phase it keeps the
state of its transport, the profile of its server, the compressor for
sending, the ledger of lent buffers, and a journal of all that it did, in
order. An operation changes the state also when it fails.
-/

namespace CommandLink

/-- How far a connection has come. -/
inductive Phase where
  | unopened
  | opening
  | opened
  | closed
  deriving DecidableEq, Repr

/-- The name of a phase in a report. -/
def Phase.label : Phase → String
  | unopened => "Unopened"
  | opening => "Opening"
  | opened => "Open"
  | closed => "Closed"

/-- Something that a connection did: a call of its transport, an event told to
its listener, a line in the log, or a wait that only closing the connection
ended. -/
inductive Happening where
  | created
  | connected
  | wrote (bytes : Bytes)
  | asked (count : Nat)
  | spared (size : Nat)
  | shut
  | told (event : CommandEvent)
  | logged (record : LogRecord)
  | waited

/-- A connection over a transport whose state is of type `σ`, as it was
built. -/
structure Connection (σ : Type) where
  server : Server
  transport : Transport σ
  packing : Packing
  compressors : CompressorSelection
  initializer : Initializer
  listener : Option Listener

/-- What changes in the life of a connection. -/
structure ConnectionStatus (σ : Type) where
  phase : Phase
  hasStream : Bool
  stream : σ
  profile : ConnectionProfile
  sendCompressor : Option Compressor
  counters : Counters
  ledger : Ledger
  journal : List Happening

/-- An operation of a connection. It may fail and changes the state either
way. -/
abbrev Action (σ α : Type) : Type := EStateM LinkError (ConnectionStatus σ) α

namespace ConnectionStatus

variable {σ : Type}

/-- Write into the journal. -/
def note (state : ConnectionStatus σ) (happening : Happening) : ConnectionStatus σ :=
  { state with journal := state.journal ++ [happening] }

/-- Write a line into the log. -/
def log (state : ConnectionStatus σ) (level : LogLevel) (message : String)
    (fields : List (String × String)) : ConnectionStatus σ :=
  state.note (.logged ⟨level, message, fields⟩)

/-- Whether the connection is closed. -/
def isClosed (state : ConnectionStatus σ) : Bool := state.phase = .closed

/-- Whether the connection is open. -/
def isOpen (state : ConnectionStatus σ) : Bool := state.phase = .opened

/-- Let go of a buffer. -/
def drop (state : ConnectionStatus σ) (buffer : Buffer) : ConnectionStatus σ :=
  { state with ledger := state.ledger.drop buffer }

/-- Tell a listener of an event, and log what it has to say. -/
def tell (state : ConnectionStatus σ) (listener : Option Listener) (event : CommandEvent) :
    ConnectionStatus σ :=
  match listener with
  | none => state
  | some listener =>
    (listener.records event).foldl (fun state record => state.note (.logged record))
      (state.note (.told event))

end ConnectionStatus

namespace Action

variable {σ α : Type}

/-- Fail unless a computation has a result. -/
def ofResult (result : Except LinkError α) : Action σ α :=
  match result with
  | .ok value => pure value
  | .error error => throw error

/-- Do something with a buffer and let go of it, whatever comes of it. -/
def holding (buffer : Buffer) (operation : Action σ α) : Action σ α := fun state =>
  match operation state with
  | .ok value state => .ok value (state.drop buffer)
  | .error error state => .error error (state.drop buffer)

/-- Pass a buffer on, unless it has to be let go of because of an error. -/
def passing (buffer : Buffer) (result : Except LinkError α) : Action σ α := fun state =>
  match result with
  | .ok value => .ok value state
  | .error error => .error error (state.drop buffer)

/-- Lend a buffer. -/
def lend (bytes : Bytes) : Action σ Buffer := fun state =>
  let (buffer, ledger) := state.ledger.lend bytes
  .ok buffer { state with ledger }

end Action

namespace Connection

variable {σ α : Type}

/-- A connection that has done nothing yet, over a transport in a given
state. -/
def start (connection : Connection σ) (stream : σ) (counters : Counters) : ConnectionStatus σ :=
  let (id, counters) := counters.takeConnection connection.server
  { phase := .unopened
    hasStream := false
    stream
    profile := .initial id
    sendCompressor := none
    counters
    ledger := .empty
    journal := [] }

/-- The address of the server. -/
def address (connection : Connection σ) : Address := connection.server.address

/-- The error of an operation on a closed connection. -/
def closedError (connection : Connection σ) (closure : Closure) : LinkError :=
  .closed connection.address closure

/-- Close the stream, if there is one. -/
def shutStream (connection : Connection σ) (state : ConnectionStatus σ) : ConnectionStatus σ :=
  if state.hasStream then
    { state with stream := connection.transport.close state.stream }.note .shut
  else state

/-- Close the connection. Only the first time does anything. -/
def shut (connection : Connection σ) (state : ConnectionStatus σ) : ConnectionStatus σ :=
  if state.isClosed then state
  else
    (connection.shutStream { state with phase := .closed }).log .debug "connection closed"
      [("connection", state.profile.connection.text)]

/-- Fail unless the connection has a stream and is not closed. -/
def requireStream (connection : Connection σ) : Action σ Unit := do
  let state ← get
  if state.isClosed then throw (connection.closedError .before)
  else if !state.hasStream then throw (.invalidState .notOpened)

/-- Close the connection if the operation fails. -/
def closingOnFailure (connection : Connection σ) (operation : Action σ α) : Action σ α :=
  fun state =>
    match operation state with
    | .ok value state => .ok value state
    | .error error state => .error error (connection.shut state)

/-- The error that a failed call is: on a closed connection, that it is closed. -/
def failureOf (connection : Connection σ) (state : ConnectionStatus σ) (stage : Stage)
    (failure : TransportError) : LinkError :=
  if state.isClosed then connection.closedError (.stated failure.message)
  else failure.toLinkError stage connection.address

/-- Call the transport. An awaited call is not begun on a closed connection,
and a call that stalls ends when the connection is closed from outside. -/
def call (connection : Connection σ) (mode : Mode) (stage : Stage) (happening : Happening)
    (perform : σ → Answer α × σ) : Action σ α := fun state =>
  if mode = .awaited ∧ state.isClosed then .error (connection.closedError .whilePending) state
  else
    let (answer, stream) := perform state.stream
    let state := { state with stream }.note happening
    let state := if answer.closes then connection.shut state else state
    match answer.outcome with
    | .done value => .ok value state
    | .failed failure => .error (connection.failureOf state stage failure) state
    | .stalled =>
      .error (connection.closedError .whilePending) ((connection.shut state).note .waited)

end Connection

end CommandLink
