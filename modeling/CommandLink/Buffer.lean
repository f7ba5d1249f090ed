import CommandLink.Frame.Header

/-!
# Buffers and who they belong to

A buffer is either the holder's own or lent. A lent one goes back, with what
it holds at that moment, when its holder lets go of it. The ledger numbers
what it lends and keeps what has come back.
-/

namespace CommandLink

/-- Bytes, and under which number they were lent, if they were. -/
structure Buffer where
  bytes : Bytes
  loan : Option Nat
  deriving DecidableEq, Repr

namespace Buffer

/-- A buffer that is not to be given back. -/
def own (bytes : Bytes) : Buffer := ⟨bytes, none⟩

/-- Whether the buffer is to be given back. -/
def isLent (buffer : Buffer) : Bool := buffer.loan.isSome

/-- Add bytes at the end. -/
def append (buffer : Buffer) (bytes : Bytes) : Buffer :=
  { buffer with bytes := buffer.bytes ++ bytes }

/-- Turn the bytes around. -/
def reverse (buffer : Buffer) : Buffer := { buffer with bytes := buffer.bytes.reverse }

end Buffer

/-- What has been lent, by count, and what has come back. -/
structure Ledger where
  lent : Nat
  returned : List (Nat × Bytes)
  deriving DecidableEq, Repr

namespace Ledger

/-- Nothing lent yet. -/
def empty : Ledger := ⟨0, []⟩

/-- Lend a buffer under the next number. -/
def lend (ledger : Ledger) (bytes : Bytes) : Buffer × Ledger :=
  (⟨bytes, some ledger.lent⟩, { ledger with lent := ledger.lent + 1 })

/-- Let go of a buffer. -/
def drop (ledger : Ledger) (buffer : Buffer) : Ledger :=
  match buffer.loan with
  | some loan => { ledger with returned := ledger.returned ++ [(loan, buffer.bytes)] }
  | none => ledger

end Ledger

/-- A received message: its header and the buffer that holds its body. -/
structure Response where
  header : InboundHeader
  body : Buffer
  deriving DecidableEq, Repr

end CommandLink
