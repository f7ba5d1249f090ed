import CommandLink.Connection.Ready
import CommandLink.Proofs.Connection.Loans
import CommandLink.Proofs.Connection.Session

/-!
# Every buffer is returned once

A client has in hand the buffers that it was given and has not let go of. As long as it lets go of
nothing else, the ledger accounts for them through the whole session: any other buffer that was lent
has been returned, once (`buffers_returned`). Commands and opening leave nothing in hand; receiving
leaves the body of what was received.
-/

namespace CommandLink

variable {σ : Type}

namespace Operation

/-- The loans that an operation leaves with its result. -/
def loans : (operation : Operation) → operation.Result → List Nat
  | receive _ _, response => Response.loans response
  | borrow _, buffer => Buffer.loans buffer
  | establish _, _ | command _ _ _, _ | send _ _ _, _ | drop _, _ | close, _ => []

/-- What a client has in hand after an operation, unless it let go of something else. -/
def hand? (connection : Connection σ) (operation : Operation) (state : ConnectionStatus σ)
    (hand : List Nat) : Option (List Nat) :=
  match operation with
  | drop ⟨_, none⟩ => some hand
  | drop ⟨_, some loan⟩ => if loan ∈ hand then some (hand.erase loan) else none
  | other =>
    match other.perform connection state with
    | .ok value _ => some (hand ++ other.loans value)
    | .error _ _ => some hand

end Operation

namespace Connection

variable {connection : Connection σ} {state next : ConnectionStatus σ} {hand final : List Nat}

open CommandLink.Action

/-- What a client has in hand after a session, unless it let go of something else on the way. -/
def hand? (connection : Connection σ) :
    List Operation → ConnectionStatus σ → List Nat → Option (List Nat)
  | [], _, hand => some hand
  | operation :: rest, state, hand =>
    (operation.hand? connection state hand).bind
      (connection.hand? rest ((operation.perform connection).after state))

/-! ## Operations -/

/-- **An operation** settles its loans. -/
theorem settles_perform (connection : Connection σ) {operation : Operation}
    (hother : ∀ buffer, operation ≠ .drop buffer) :
    Settles [] (operation.perform connection) operation.loans := by
  cases operation with
  | establish mode => exact connection.settles_establish mode
  | command mode message decode => exact connection.settles_command mode message decode
  | send mode bytes requestId => exact connection.settles_send mode bytes requestId
  | receive mode responseTo => exact connection.settles_receive mode responseTo
  | borrow size => exact connection.settles_borrowBuffer size
  | drop buffer => exact absurd rfl (hother buffer)
  | close => exact settles_modify connection.ledger_shut

/-- What was in hand stays there, and what the operation leaves comes with it. -/
theorem hand?_of_not_drop {operation : Operation} (hother : ∀ buffer, operation ≠ .drop buffer) :
    operation.hand? connection state hand =
      match operation.perform connection state with
      | .ok value _ => some (hand ++ operation.loans value)
      | .error _ _ => some hand := by
  cases operation with
  | drop buffer => exact absurd rfl (hother buffer)
  | establish mode => rfl
  | command mode message decode => rfl
  | send mode bytes requestId => rfl
  | receive mode responseTo => rfl
  | borrow size => rfl
  | close => rfl

/-- A buffer is let go of that was in hand, if it was lent at all. -/
theorem perm_of_hand?_drop {buffer : Buffer}
    (h : (Operation.drop buffer).hand? connection state hand = some final) :
    hand.Perm (final ++ buffer.loans) := by
  obtain ⟨bytes, loan⟩ := buffer
  cases loan with
  | none =>
    cases h
    exact (List.append_nil hand).symm ▸ .refl hand
  | some loan =>
    change (if loan ∈ hand then some (hand.erase loan) else none) = some final at h
    split at h
    · rename_i hmem
      cases h
      exact (List.perm_cons_erase hmem).trans (List.perm_append_singleton loan _).symm
    · cases h

/-- **An operation keeps the account**, of whatever is in hand after it. -/
theorem accountsFor_of_perform {operation : Operation} (haccounts : state.ledger.AccountsFor hand)
    (h : operation.hand? connection state hand = some final) :
    ((operation.perform connection).after state).ledger.AccountsFor final := by
  by_cases hdrop : ∃ buffer, operation = .drop buffer
  · obtain ⟨buffer, rfl⟩ := hdrop
    exact (haccounts.perm (perm_of_hand?_drop h)).drop
  · have hother : ∀ buffer, operation ≠ .drop buffer := fun buffer hsame => hdrop ⟨buffer, hsame⟩
    have hsettled := connection.settles_perform hother state hand (by rwa [List.append_nil])
    rw [hand?_of_not_drop hother] at h
    unfold after
    cases hresult : operation.perform connection state with
    | ok value next =>
      rw [hresult] at hsettled h
      cases h
      exact hsettled
    | error fault next =>
      rw [hresult] at hsettled h
      cases h
      exact hsettled

/-- **A session keeps the account** too. -/
theorem accountsFor_of_run (operations : List Operation) :
    ∀ {state : ConnectionStatus σ} {hand : List Nat}, state.ledger.AccountsFor hand →
      connection.hand? operations state hand = some final →
      (connection.run operations state).1.ledger.AccountsFor final := by
  induction operations with
  | nil =>
    intro state hand haccounts h
    cases h
    exact haccounts
  | cons operation rest ih =>
    intro state hand haccounts h
    obtain ⟨between, hbetween, hrest⟩ := Option.bind_eq_some_iff.mp h
    have hnext := accountsFor_of_perform haccounts hbetween
    rw [← fst_step] at hnext hrest
    exact ih hnext hrest

/-! ## What is received -/

/-- What was read was lent. -/
theorem isSome_loan_of_readBuffer {mode : Mode} {stage : Stage} {count : Nat} {buffer : Buffer}
    (h : connection.readBuffer mode stage count state = .ok buffer next) :
    buffer.loan.isSome = true := by
  obtain ⟨bytes, mid, -, hlend⟩ := ok_of_bind h
  cases hlend
  rfl

/-- So was what was unpacked, where spare buffers are lent. -/
theorem loan_of_unpack {header : Header} {body : Bytes} {limit : Nat} {response : Response}
    (h : connection.unpack header body limit state = .ok response next) :
    response.header.compressed = true ∧
      response.body.loan.isSome = connection.transport.lendsSpares := by
  obtain ⟨envelope, -, h⟩ := ok_of_ofResult_bind h
  obtain ⟨plan, -, h⟩ := ok_of_ofResult_bind h
  obtain ⟨spare, lent, hspare, h⟩ := ok_of_bind h
  have hlent : spare.loan.isSome = connection.transport.lendsSpares := by
    unfold spareBuffer at hspare
    rw [modify_bind] at hspare
    cases hspares : connection.transport.lendsSpares with
    | true =>
      rw [hspares] at hspare
      cases hspare
      rfl
    | false =>
      rw [hspares] at hspare
      cases hspare
      rfl
  obtain ⟨hresponse, -⟩ := ok_of_passing h
  split at hresponse
  · cases hresponse
    exact ⟨rfl, hlent⟩
  · cases hresponse

/-- The body of what was received was lent, unless it came out of an envelope into a spare buffer
that the transport does not want back. -/
theorem loan_of_receiveWithin {mode : Mode} {limit : Nat} {response : Response}
    (h : connection.receiveWithin mode limit state = .ok response next) :
    response.body.loan.isSome =
      (!response.header.compressed || connection.transport.lendsSpares) := by
  obtain ⟨front, fronted, header, body, bodied, assembled, -, -, hbody, hassemble, -⟩ :=
    ok_of_receiveWithin h
  unfold assemble at hassemble
  split at hassemble
  · cases hassemble
  · split at hassemble
    · obtain ⟨unpacked, hunpack, -⟩ := ok_of_holding hassemble
      obtain ⟨hcompressed, hloan⟩ := loan_of_unpack hunpack
      rw [hcompressed, hloan]
      rfl
    · cases hassemble
      exact isSome_loan_of_readBuffer hbody

end Connection

/-- **Every buffer is returned exactly once.** Take any session of a client that lets go of nothing
but what it has in hand, over any transport. Of the buffers that were lent in it each has been
returned once or is in hand once. Whatever comes of opening the connection or of a command then, the
same are in hand. Receiving adds the body of what was received, one buffer that was lent unless it
is one that the transport does not want back; once it is let go of, or where receiving fails, the
same are in hand as before. -/
theorem buffers_returned (connection : Connection σ) (stream : σ) (counters : Counters)
    (operations : List Operation) (hand : List Nat)
    (h : connection.hand? operations (connection.start stream counters) [] = some hand) :
    let state := (connection.run operations (connection.start stream counters)).1
    (∀ loan, (state.ledger.returned.map Prod.fst).count loan + hand.count loan =
      if loan < state.ledger.lent then 1 else 0) ∧
    (∀ mode, ((connection.establish mode).after state).ledger.AccountsFor hand) ∧
    (∀ mode message (α : Type) (decode : RawDocument → Except LinkError α),
      ((connection.command mode message decode).after state).ledger.AccountsFor hand) ∧
    ∀ mode responseTo,
      match connection.receive mode responseTo state with
      | .ok response next =>
        next.ledger.AccountsFor (hand ++ response.body.loan.toList) ∧
        response.body.loan.isSome =
          (!response.header.compressed || connection.transport.lendsSpares) ∧
        (next.drop response.body).ledger.AccountsFor hand
      | .error _ next => next.ledger.AccountsFor hand := by
  intro state
  have haccounts : state.ledger.AccountsFor hand :=
    Connection.accountsFor_of_run operations Ledger.accountsFor_empty h
  refine ⟨haccounts, fun mode => (connection.settles_establish mode).accountsFor_after haccounts,
    fun mode message α decode =>
      (connection.settles_command mode message decode).accountsFor_after haccounts,
    fun mode responseTo => ?_⟩
  have hsettled := connection.settles_receive mode responseTo state hand (by rwa [List.append_nil])
  cases hreceive : connection.receive mode responseTo state with
  | ok response next =>
    rw [hreceive] at hsettled
    have hreceived := (Connection.ok_of_receive hreceive).1
    exact ⟨hsettled, Connection.loan_of_receiveWithin hreceived, hsettled.drop⟩
  | error fault next =>
    rw [hreceive] at hsettled
    exact hsettled

/-- Three bytes in a message, and then an envelope of a compressor that nobody knows. -/
def ReadyPeer.known : Bytes :=
  Header.encode ⟨19, 9, 7, 1⟩ ++ [1, 2, 3] ++
    Header.encode ⟨25, 10, 8, 2012⟩ ++ [0, 0, 0, 0, 0, 0, 0, 0, 9]

/-- The body of the first is in hand, and its header and both buffers of the second have been
returned. -/
theorem buffers_returned_known :
    let connection := ReadyPeer.connection .empty
    let start := connection.start (.having ReadyPeer.known) .initial
    let operations : List Operation :=
      [.establish .blocking, .receive .awaited 7, .receive .blocking 8]
    let state := (connection.run operations start).1
    connection.hand? operations start [] = some [1] ∧ state.ledger.lent = 4 ∧
      (∀ loan, (state.ledger.returned.map Prod.fst).count loan + [1].count loan =
        if loan < state.ledger.lent then 1 else 0) ∧
      ((connection.establish .awaited).after state).ledger.AccountsFor [1] := by
  obtain ⟨hreturned, hestablish, -, -⟩ := buffers_returned (ReadyPeer.connection .empty)
    (.having ReadyPeer.known) .initial
    [.establish .blocking, .receive .awaited 7, .receive .blocking 8] [1] rfl
  exact ⟨rfl, rfl, hreturned, hestablish .awaited⟩

end CommandLink
