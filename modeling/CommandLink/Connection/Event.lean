import CommandLink.Connection.Identity
import CommandLink.Message.Command
import CommandLink.Reply.Success

/-!
# Command events

A listener hears of each command: that it started, and whether it succeeded or
failed. Of commands that carry credentials neither the payload nor the reply
is told. A listener may break down over an event; that is logged and goes no
further.
-/

namespace CommandLink

/-- How much a log record matters. -/
inductive LogLevel where
  | trace
  | debug
  | info
  | warn
  deriving DecidableEq, Repr

/-- The name of a level. -/
def LogLevel.label : LogLevel → String
  | trace => "TRACE"
  | debug => "DEBUG"
  | info => "INFO"
  | warn => "WARN"

/-- A line of the log, with its named particulars. -/
structure LogRecord where
  level : LogLevel
  message : String
  fields : List (String × String)
  deriving DecidableEq, Repr

/-- What happened to a command. -/
inductive CommandStage where
  | started (database : String) (command : Document)
  | succeeded (reply : Document)
  | failed (error : LinkError)

/-- The name of what happened. -/
def CommandStage.label : CommandStage → String
  | started _ _ => "started"
  | succeeded _ => "succeeded"
  | failed _ => "failed"

/-- The command that events tell of. -/
structure CommandIdentity where
  connection : ConnectionIdentity
  requestId : UInt32
  name : String
  deriving DecidableEq, Repr

/-- What a listener is told. -/
structure CommandEvent where
  identity : CommandIdentity
  stage : CommandStage

namespace CommandIdentity

/-- The command of a message sent over a connection. -/
def ofMessage (connection : ConnectionIdentity) (message : Command) : CommandIdentity :=
  ⟨connection, message.requestId, message.name⟩

/-- Whether the command carries credentials. -/
def isSensitive (identity : CommandIdentity) : Bool := CommandLink.isSensitive identity.name

/-- The event of a command that is about to be sent. -/
def started (identity : CommandIdentity) (message : Command) : CommandEvent :=
  ⟨identity, .started message.space.database
    (if identity.isSensitive then [] else message.command.unwrapped)⟩

/-- The event of a command whose reply reports success. A reply that cannot be
decoded counts as empty. -/
def succeeded (identity : CommandIdentity) (reply : RawDocument) : CommandEvent :=
  ⟨identity, .succeeded (if identity.isSensitive then [] else reply.decode?.getD [])⟩

/-- The event of a command that failed. -/
def failed (identity : CommandIdentity) (error : LinkError) : CommandEvent :=
  ⟨identity, .failed (if identity.isSensitive then error.withoutDetail else error)⟩

end CommandIdentity

/-- Which ends of a command have been told so far. -/
structure EventSender where
  succeeded : Bool
  failed : Bool
  deriving DecidableEq, Repr

namespace EventSender

/-- The sender of a command that has only started. -/
def fresh : EventSender := ⟨false, false⟩

/-- The sender after an event that it tells of, if it does. Success is told
once and never after a failure, a failure once, after success too. -/
def admit? (sender : EventSender) (event : CommandEvent) : Option EventSender :=
  match event.stage with
  | .started _ _ => some sender
  | .succeeded _ =>
    if sender.succeeded || sender.failed then none else some { sender with succeeded := true }
  | .failed _ => if sender.failed then none else some { sender with failed := true }

/-- What the sender tells of the events that it is handed. The others are
withheld. -/
def told (sender : EventSender) : List CommandEvent → List CommandEvent
  | [] => []
  | event :: rest =>
    match sender.admit? event with
    | some next => event :: next.told rest
    | none => sender.told rest

end EventSender

/-- Who hears of commands: what is logged of an event, whether the listener
breaks down over it, and whether it keeps the events that it hears. -/
structure Listener where
  keeps : Bool
  logs : CommandEvent → List LogRecord
  breaks : CommandEvent → Bool

namespace Listener

/-- A listener that does nothing. -/
def silent : Listener := ⟨false, fun _ => [], fun _ => false⟩

/-- A listener that keeps what it hears and breaks down over some of it. -/
def recording (breaksOver : List String) : Listener :=
  ⟨true, fun _ => [], fun event => breaksOver.contains event.stage.label⟩

/-- The line that a logging listener writes. -/
def line (event : CommandEvent) : LogRecord :=
  let connection := ("connection", event.identity.connection.text)
  let request := ("request_id", toString event.identity.requestId.toNat)
  let command := ("command", event.identity.name)
  match event.stage with
  | .started database _ =>
    ⟨.debug, "command started", [connection, request, ("database", database), command]⟩
  | .succeeded _ => ⟨.debug, "command succeeded", [connection, request, command]⟩
  | .failed error =>
    ⟨.warn, "command failed", [connection, request, command, ("error", error.message)]⟩

/-- A listener that logs every event. -/
def logging : Listener := ⟨false, fun event => [line event], fun _ => false⟩

/-- All that is logged of an event. -/
def records (listener : Listener) (event : CommandEvent) : List LogRecord :=
  listener.logs event
    ++ if listener.breaks event then
        [⟨.warn, "command listener panicked, event dropped", [("command", event.identity.name)]⟩]
      else []

end Listener

end CommandLink
