import CommandLink.Error

/-!
# Transports

A transport makes one stream to one server and carries bytes over it. What it
does is not promised: a call may fail, give fewer bytes than were asked for,
or close the connection that made it. Each call has a blocking form and one
that is awaited; an awaited call may stall and never come to an end by itself.
-/

namespace CommandLink

/-- The two forms of a call. -/
inductive Mode where
  | blocking
  | awaited
  deriving DecidableEq, Repr

/-- How a call ends, if it does. -/
inductive Outcome (α : Type) where
  | done (value : α)
  | failed (failure : TransportError)
  | stalled

/-- What comes of a call, and whether the connection was closed while it
lasted. -/
structure Answer (α : Type) where
  closes : Bool
  outcome : Outcome α

/-- The calls of a transport whose state is of type `σ`: `create` makes the
stream, `connect` opens it, `read` gives at most so many bytes. A transport that
`lendsSpares` wants the buffers back that it gives out for other uses. -/
structure Transport (σ : Type) where
  create : Address → σ → Answer Unit × σ
  connect : Mode → σ → Answer Unit × σ
  write : Mode → Bytes → σ → Answer Unit × σ
  read : Mode → Nat → σ → Answer Bytes × σ
  close : σ → σ
  lendsSpares : Bool

end CommandLink
