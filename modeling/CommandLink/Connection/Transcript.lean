import CommandLink.Connection.Session

/-!
# Transcripts

A transcript tells of a session, operation by operation, what it gave and the state that it left.
How a connection learns the profile of its server may be of any kind here: opening takes it as a
parameter. Operations that have two forms can be done in either one.
-/

namespace CommandLink

variable {σ α : Type}

/-- What came of an operation: its value, of whatever type, or its error, and the state that it
left. -/
structure Account (σ : Type) : Type 1 where
  result : Except LinkError ((α : Type) × α)
  state : ConnectionStatus σ

/-- The account of an action. -/
def Action.account (operation : Action σ α) (state : ConnectionStatus σ) : Account σ :=
  match operation state with
  | .ok value next => ⟨.ok ⟨α, value⟩, next⟩
  | .error error next => ⟨.error error, next⟩

/-- Open the connection, learning the profile of the server in some way. -/
def Connection.establishBy (connection : Connection σ) (learn : Mode → Action σ ConnectionProfile)
    (mode : Mode) : Action σ Unit := do
  connection.begin
  connection.closingOnFailure do
    connection.call mode .opening .connected (connection.transport.connect mode)
    connection.adopt (← learn mode)
  modify fun state => state.log .info "opened connection" (openedFields state)

namespace Operation

/-- The same operation in one of the two forms, if it has them. -/
def inMode (mode : Mode) : Operation → Operation
  | establish _ => establish mode
  | command _ message decode => command mode message decode
  | send _ bytes requestId => send mode bytes requestId
  | receive _ responseTo => receive mode responseTo
  | borrow size => borrow size
  | drop buffer => drop buffer
  | close => close

/-- Do an operation, learning the profile of the server in some way. -/
def performBy (connection : Connection σ) (learn : Mode → Action σ ConnectionProfile) :
    (operation : Operation) → Action σ operation.Result
  | establish mode => connection.establishBy learn mode
  | other => other.perform connection

end Operation

/-- The accounts of all operations of a session, in order. -/
def Connection.transcript (connection : Connection σ) (learn : Mode → Action σ ConnectionProfile) :
    List Operation → ConnectionStatus σ → List (Account σ)
  | [], _ => []
  | operation :: rest, state =>
    let account := (operation.performBy connection learn).account state
    account :: connection.transcript learn rest account.state

end CommandLink
