import CommandLink.Buffer

/-!
# Passing buffers on

A holder has room for one buffer and one response. Putting something in a place
lets go of what was there; moving a buffer into a response or out of it lets go
of nothing else.
-/

namespace CommandLink

/-- What a holder has, and the ledger of what was lent. -/
structure Custody where
  buffer : Option Buffer
  response : Option Response
  ledger : Ledger
  deriving DecidableEq, Repr

/-- What a holder can do. -/
inductive CustodyStep where
  | take (bytes : Bytes)
  | borrow (bytes : Bytes)
  | append (bytes : Bytes)
  | reverse
  | respond (header : InboundHeader)
  | intoBody
  | drop

namespace Custody

/-- Empty hands. -/
def empty : Custody := ⟨none, none, .empty⟩

/-- Have another buffer, or none, and let go of the one before. -/
def putBuffer (custody : Custody) (buffer : Option Buffer) : Custody :=
  { custody with
    buffer
    ledger := custody.buffer.elim custody.ledger custody.ledger.drop }

/-- Have another response, or none, and let go of the one before. -/
def putResponse (custody : Custody) (response : Option Response) : Custody :=
  { custody with
    response
    ledger := custody.response.elim custody.ledger fun old => custody.ledger.drop old.body }

/-- Do a step. -/
def step (custody : Custody) : CustodyStep → Custody
  | .take bytes => custody.putBuffer (some (.own bytes))
  | .borrow bytes =>
    let (buffer, ledger) := custody.ledger.lend bytes
    { custody with ledger }.putBuffer (some buffer)
  | .append bytes => { custody with buffer := custody.buffer.map (·.append bytes) }
  | .reverse => { custody with buffer := custody.buffer.map Buffer.reverse }
  | .respond header =>
    { custody with buffer := none }.putResponse (custody.buffer.map (Response.mk header))
  | .intoBody =>
    { custody with response := none }.putBuffer (custody.response.map Response.body)
  | .drop => (custody.putBuffer none).putResponse none

end Custody

end CommandLink
