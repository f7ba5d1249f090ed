import CommandLink.Connection.Session

/-!
# Setbacks

A setback is a call of the transport that fails. An operation meets one if the calls before it were
answered, the connection not being closed over them, and the operation went on from their answers
to that call.
-/

namespace CommandLink

variable {σ : Type}

/-- A call that fails: at which stage, how, and whether it closes the connection. -/
structure Setback where
  stage : Stage
  failure : TransportError
  closes : Bool

/-- The kind of error that a failure of the transport's own is at a stage. -/
def Stage.kindOf (stage : Stage) (kind : FailureKind) : LinkErrorKind :=
  if kind = .interrupted then .interrupted
  else if kind = .other ∨ kind = .unsupported ∨ kind = .outOfMemory then .unexpectedInternal
  else
    let timesOut : Bool := kind = .timedOut ∨ kind = .wouldBlock
    match stage with
    | opening => .openFailure
    | writing => .writeFailure
    | readingHeader => if timesOut then .readTimeout else .readFailure
    | readingBody =>
      if timesOut then .readTimeout
      else if kind = .unexpectedEof then .protocolFraming
      else .readFailure

/-- The error that a setback is: on a connection that it closes, that this is closed. -/
def Setback.error (setback : Setback) (address : Address) : LinkError :=
  if setback.closes then .closed address (.stated setback.failure.message)
  else setback.failure.toLinkError setback.stage address

namespace Transport

/-- Receiving from a stream fails at one of its two reads. -/
inductive FailsReading (transport : Transport σ) (mode : Mode) (limit : Nat) (stream : σ) :
    Setback → Prop
  | header {closes : Bool} {failure : TransportError}
      (hread : (transport.read mode Header.size stream).1 = ⟨closes, .failed failure⟩) :
      FailsReading transport mode limit stream ⟨.readingHeader, failure, closes⟩
  | body {front : Bytes} {fronted : σ} {header : Header} {closes : Bool} {failure : TransportError}
      (hfront : transport.read mode Header.size stream = (⟨false, .done front⟩, fronted))
      (hdecode : Header.decode front limit = .ok header)
      (hread : (transport.read mode header.bodySize fronted).1 = ⟨closes, .failed failure⟩) :
      FailsReading transport mode limit stream ⟨.readingBody, failure, closes⟩

/-- Writing to a stream and receiving from it fails at the write or at one of the reads. -/
inductive FailsConversing (transport : Transport σ) (mode : Mode) (bytes : Bytes) (limit : Nat)
    (stream : σ) : Setback → Prop
  | writing {closes : Bool} {failure : TransportError}
      (hwrite : (transport.write mode bytes stream).1 = ⟨closes, .failed failure⟩) :
      FailsConversing transport mode bytes limit stream ⟨.writing, failure, closes⟩
  | reading {written : σ} {setback : Setback}
      (hwrite : transport.write mode bytes stream = (⟨false, .done ()⟩, written))
      (hread : transport.FailsReading mode limit written setback) :
      FailsConversing transport mode bytes limit stream setback

end Transport

/-- The setbacks that an operation meets in a state: opening at the call that makes the stream, at
the one that connects it, and at those of the command that asks the server, and the others at their
own calls. -/
inductive Connection.Meets (connection : Connection σ) (state : ConnectionStatus σ) :
    Operation → Setback → Prop
  | creating {mode : Mode} {closes : Bool} {failure : TransportError}
      (hphase : state.phase = .unopened)
      (hcreate : (connection.transport.create connection.address state.stream).1 =
        ⟨closes, .failed failure⟩) :
      Meets connection state (.establish mode) ⟨.opening, failure, closes⟩
  | connecting {mode : Mode} {made : σ} {closes : Bool} {failure : TransportError}
      (hphase : state.phase = .unopened)
      (hcreate : connection.transport.create connection.address state.stream =
        (⟨false, .done ()⟩, made))
      (hconnect : (connection.transport.connect mode made).1 = ⟨closes, .failed failure⟩) :
      Meets connection state (.establish mode) ⟨.opening, failure, closes⟩
  | asking {mode : Mode} {made connected : σ} {handshake : Handshake} {bytes : Bytes}
      {setback : Setback} (hphase : state.phase = .unopened)
      (hcreate : connection.transport.create connection.address state.stream =
        (⟨false, .done ()⟩, made))
      (hconnect : connection.transport.connect mode made = (⟨false, .done ()⟩, connected))
      (hinitializer : connection.initializer = .handshake handshake)
      (hbytes : connection.outgoing state (handshake.message state.counters.request) = .ok bytes)
      (hfails : connection.transport.FailsConversing mode bytes state.profile.limits.messageSize
        connected setback) :
      Meets connection state (.establish mode) setback
  | command {α : Type} {mode : Mode} {message : Command}
      {decode : RawDocument → Except LinkError α} {bytes : Bytes} {setback : Setback}
      (hphase : state.phase ≠ .closed) (hstream : state.hasStream = true)
      (hbytes : connection.outgoing state message = .ok bytes)
      (hfails : connection.transport.FailsConversing mode bytes state.profile.limits.messageSize
        state.stream setback) :
      Meets connection state (.command mode message decode) setback
  | send {mode : Mode} {bytes : Bytes} {requestId : UInt32} {closes : Bool}
      {failure : TransportError} (hphase : state.phase ≠ .closed)
      (hstream : state.hasStream = true)
      (hwrite : (connection.transport.write mode bytes state.stream).1 =
        ⟨closes, .failed failure⟩) :
      Meets connection state (.send mode bytes requestId) ⟨.writing, failure, closes⟩
  | receive {mode : Mode} {responseTo : UInt32} {setback : Setback}
      (hphase : state.phase ≠ .closed) (hstream : state.hasStream = true)
      (hfails : connection.transport.FailsReading mode state.profile.limits.messageSize
        state.stream setback) :
      Meets connection state (.receive mode responseTo) setback

end CommandLink
