import CommandLink.Buffer.Custody

/-!
# Any number of places

Buffers and responses are in places, and each belongs to the place that it is in. A step takes or
borrows a buffer into a place, changes the bytes of one where it is, passes what is in a place on to
another, or empties a place. Whatever was in a place is let go of when something else comes there;
what is passed on leaves its place without being let go of. A holder of one buffer and one response
is the case of two places (`Custody.holdings`).
-/

namespace CommandLink

/-- What a place can hold: a buffer by itself, or a response with one in it. -/
inductive Holding where
  | buffer (buffer : Buffer)
  | response (response : Response)
  deriving DecidableEq, Repr

/-- The buffer, be it in a response or not. -/
def Holding.body : Holding → Buffer
  | .buffer own => own
  | .response around => around.body

/-- How something is passed on: as it is, into a response, or out of one. -/
inductive Passage where
  | asItIs
  | intoResponse (header : InboundHeader)
  | outOfResponse

/-- What arrives when something is passed on. A response goes into no other, and only a response has
something to come out of it. -/
def Passage.pass? : Passage → Holding → Option Holding
  | asItIs, holding => some holding
  | intoResponse header, .buffer buffer => some (.response ⟨header, buffer⟩)
  | outOfResponse, .response response => some (.buffer response.body)
  | intoResponse _, .response _ | outOfResponse, .buffer _ => none

/-- Places, some of them vacant, and the ledger of what was lent. -/
structure Holdings (n : Nat) where
  places : Fin n → Option Holding
  ledger : Ledger

/-- What can be done with places. -/
inductive HoldingStep (n : Nat) where
  | take (place : Fin n) (bytes : Bytes)
  | borrow (place : Fin n) (bytes : Bytes)
  | edit (place : Fin n) (change : Bytes → Bytes)
  | pass (passage : Passage) (source target : Fin n)
  | drop (place : Fin n)

/-- Whether a buffer is lent in the step. -/
def HoldingStep.borrows {n : Nat} : HoldingStep n → Bool
  | borrow _ _ => true
  | take _ _ | edit _ _ | pass _ _ _ | drop _ => false

/-- The places that a step is about. -/
def HoldingStep.concerns {n : Nat} : HoldingStep n → List (Fin n)
  | take place _ | borrow place _ | edit place _ | drop place => [place]
  | pass _ source target => [source, target]

namespace Holdings

variable {n : Nat}

/-- Nothing in any place. -/
def vacant (n : Nat) : Holdings n := ⟨fun _ => none, .empty⟩

/-- Have something in a place, or nothing, without letting go of what was there. -/
def assign (holdings : Holdings n) (place : Fin n) (holding : Option Holding) : Holdings n :=
  { holdings with
    places := fun other => if other = place then holding else holdings.places other }

/-- Have something in a place, or nothing, and let go of what was there. -/
def put (holdings : Holdings n) (place : Fin n) (holding : Option Holding) : Holdings n :=
  { holdings.assign place holding with
    ledger := (holdings.places place).elim holdings.ledger fun old =>
      holdings.ledger.drop old.body }

/-- Do a step. One that asks for something that is not there changes nothing. -/
def step (holdings : Holdings n) : HoldingStep n → Holdings n
  | .take place bytes => holdings.put place (some (.buffer (.own bytes)))
  | .borrow place bytes =>
    let (buffer, ledger) := holdings.ledger.lend bytes
    { holdings with ledger }.put place (some (.buffer buffer))
  | .edit place change =>
    match holdings.places place with
    | some (.buffer buffer) =>
      holdings.assign place (some (.buffer { buffer with bytes := change buffer.bytes }))
    | _ => holdings
  | .pass passage source target =>
    match (holdings.places source).bind passage.pass? with
    | some passed => (holdings.assign source none).put target (some passed)
    | none => holdings
  | .drop place => holdings.put place none

/-- Do one step after the other. -/
def run (holdings : Holdings n) (steps : List (HoldingStep n)) : Holdings n :=
  steps.foldl step holdings

/-- The buffers that are in places. -/
def held (holdings : Holdings n) : List Buffer :=
  ((List.finRange n).filterMap holdings.places).map Holding.body

/-- Their loans, of those that were lent. -/
def loans (holdings : Holdings n) : List Nat := holdings.held.filterMap Buffer.loan

end Holdings

/-! ## One buffer and one response -/

namespace Custody

/-- The place of the buffer. -/
def bufferPlace : Fin 2 := ⟨0, Nat.two_pos⟩

/-- The place of the response. -/
def responsePlace : Fin 2 := ⟨1, Nat.one_lt_two⟩

/-- The buffer in the first place and the response in the second. -/
def holdings (custody : Custody) : Holdings 2 where
  places place :=
    if place = bufferPlace then custody.buffer.map .buffer else custody.response.map .response
  ledger := custody.ledger

/-- A step in terms of the two places. Where there is nothing to pass on the target is emptied. -/
def stepsFor (custody : Custody) : CustodyStep → List (HoldingStep 2)
  | .take bytes => [.take bufferPlace bytes]
  | .borrow bytes => [.borrow bufferPlace bytes]
  | .append bytes => [.edit bufferPlace (· ++ bytes)]
  | .reverse => [.edit bufferPlace List.reverse]
  | .respond header =>
    if custody.buffer.isSome then [.pass (.intoResponse header) bufferPlace responsePlace]
    else [.drop responsePlace]
  | .intoBody =>
    if custody.response.isSome then [.pass .outOfResponse responsePlace bufferPlace]
    else [.drop bufferPlace]
  | .drop => [.drop bufferPlace, .drop responsePlace]

/-- Do one step after the other. -/
def run (custody : Custody) (steps : List CustodyStep) : Custody := steps.foldl step custody

/-- All of them in terms of the two places. -/
def runFor (custody : Custody) : List CustodyStep → List (HoldingStep 2)
  | [] => []
  | step :: rest => custody.stepsFor step ++ (custody.step step).runFor rest

end Custody

end CommandLink
