import CommandLink.Error

/-!
# What a failed call means

A failure of the transport becomes an error of the connection once, by its
kind and the stage at which it happened. One that carries an error of the
connection already gives that error back.
-/

namespace CommandLink

/-- The stages at which a call can fail. -/
inductive Stage where
  | opening
  | writing
  | readingHeader
  | readingBody
  deriving DecidableEq, Repr

/-- The error that a failure with no special meaning is at a stage. -/
def Stage.failure (stage : Stage) (address : Address) (source : TransportError) :
    LinkError :=
  match stage with
  | opening => .openFailure address source
  | writing => .writeFailure address source
  | readingHeader => .readFailure address source
  | readingBody => .readFailure address source

/-- The error that running out of time is at a stage: only receiving has one of
its own. -/
def Stage.timeout (stage : Stage) (address : Address) (source : TransportError) :
    LinkError :=
  match stage with
  | opening => .openFailure address source
  | writing => .writeFailure address source
  | readingHeader => .readTimeout address source
  | readingBody => .readTimeout address source

/-- The error that a plain failure is at a stage. -/
def Stage.errorOf (stage : Stage) (address : Address) (kind : FailureKind) (text : String) :
    LinkError :=
  let source := TransportError.plain kind text
  match kind with
  | .interrupted => .interrupted s!"interrupted while talking to {address}" (some source)
  | .other | .unsupported | .outOfMemory =>
    .unexpectedInternal s!"unexpected error talking to {address}: {text}" (some source)
  | .timedOut | .wouldBlock => stage.timeout address source
  | .unexpectedEof =>
    if stage = readingBody then .protocolFraming (.bodyCutShort address.text text)
    else stage.failure address source
  | _ => stage.failure address source

/-- The error of the connection that a failure is. -/
def TransportError.toLinkError (failure : TransportError) (stage : Stage) (address : Address) :
    LinkError :=
  match failure with
  | .carried error => error
  | .plain kind text => stage.errorOf address kind text

end CommandLink
