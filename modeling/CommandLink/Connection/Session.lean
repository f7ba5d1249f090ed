import CommandLink.Connection.Opening

/-!
# Sessions

A session is what is done with a connection, one operation after the other. It goes on after an
operation that failed. The limit in force while an operation lasts is that of the profile before it,
and every operation that receives a message and succeeds makes one receipt of it.
-/

namespace CommandLink

/-- The operations of a connection, and letting go of a buffer that it has handed out. -/
inductive Operation : Type 1 where
  | establish (mode : Mode)
  | command (mode : Mode) (message : Command) {α : Type} (decode : RawDocument → Except LinkError α)
  | send (mode : Mode) (bytes : Bytes) (requestId : UInt32)
  | receive (mode : Mode) (responseTo : UInt32)
  | borrow (size : Nat)
  | drop (buffer : Buffer)
  | close

namespace Operation

variable {σ : Type}

/-- What an operation gives when it succeeds. -/
def Result : Operation → Type
  | establish _ => Unit
  | @command _ _ α _ => α
  | send _ _ _ => Unit
  | receive _ _ => Response
  | borrow _ => Buffer
  | drop _ => Unit
  | close => Unit

/-- Do an operation. -/
def perform (connection : Connection σ) : (operation : Operation) → Action σ operation.Result
  | establish mode => connection.establish mode
  | command mode message decode => connection.command mode message decode
  | send mode bytes requestId => connection.send mode bytes requestId
  | receive mode responseTo => connection.receive mode responseTo
  | borrow size => connection.borrowBuffer size
  | drop buffer => modify fun state => state.drop buffer
  | close => connection.close

/-- Whether an operation that succeeds has received a message. Opening a connection does when it
asks the server. -/
def receives (connection : Connection σ) : Operation → Bool
  | establish _ =>
    match connection.initializer with
    | .handshake _ => true
    | .prepared _ _ => false
  | command _ _ _ => true
  | receive _ _ => true
  | send _ _ _ | borrow _ | drop _ | close => false

/-- The state after an operation, and its receipts: the limit in force for each message that was
received. -/
def step (connection : Connection σ) (operation : Operation) (state : ConnectionStatus σ) :
    ConnectionStatus σ × List Nat :=
  match operation.perform connection state with
  | .ok _ next =>
    (next, if operation.receives connection then [state.profile.limits.messageSize] else [])
  | .error _ next => (next, [])

end Operation

namespace Connection

variable {σ : Type}

/-- The state after a session, and all its receipts in order. -/
def run (connection : Connection σ) : List Operation → ConnectionStatus σ →
    ConnectionStatus σ × List Nat
  | [], state => (state, [])
  | operation :: rest, state =>
    let (next, receipts) := operation.step connection state
    let (final, more) := connection.run rest next
    (final, receipts ++ more)

end Connection

end CommandLink
