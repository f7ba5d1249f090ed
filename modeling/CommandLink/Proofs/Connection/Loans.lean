import CommandLink.Proofs.Buffer.Account
import CommandLink.Proofs.Connection.Dispatch
import CommandLink.Proofs.Connection.Lasting

/-!
# Loans and who has them

An action settles its loans when it keeps the account of the ledger: what it was given to hold and
what it has borrowed since is returned before it fails, and before it succeeds but for the loans of
its result (`Action.Settles`). Sequences of such actions do so too. Receiving leaves the body of what
was received (`settles_receiveWithin`); commands and opening leave nothing (`settles_command`,
`settles_establish`).
-/

namespace CommandLink

variable {σ α β : Type}

namespace Action

/-- An action that settles its loans. It is given some to hold; others may be in other hands, and
stay there. If it fails it leaves none of its own, and if it succeeds those of its result. -/
def Settles (held : List Nat) (operation : Action σ α) (left : α → List Nat) : Prop :=
  ∀ state others, state.ledger.AccountsFor (others ++ held) →
    match operation state with
    | .ok value next => next.ledger.AccountsFor (others ++ left value)
    | .error _ next => next.ledger.AccountsFor others

/-- An action that has nothing to do with loans. -/
abbrev Aloof (operation : Action σ α) : Prop := operation.Settles [] fun _ => []

/-! ## What settles its loans -/

theorem settles_pure (value : α) (left : α → List Nat) :
    Settles (left value) (pure value : Action σ α) left := fun _ _ h => h

theorem aloof_pure (value : α) : Aloof (pure value : Action σ α) := settles_pure value fun _ => []

theorem settles_throw (error : LinkError) (left : α → List Nat) :
    Settles [] (throw error : Action σ α) left :=
  fun _ others h => (List.append_nil others) ▸ h

theorem settles_get : Aloof (get : Action σ (ConnectionStatus σ)) := fun _ _ h => h

theorem settles_ofResult (result : Except LinkError α) :
    Aloof (Action.ofResult result : Action σ α) := by
  cases result with
  | ok value => exact aloof_pure value
  | error fault => exact settles_throw fault _

theorem settles_modify {change : ConnectionStatus σ → ConnectionStatus σ}
    (h : ∀ state, (change state).ledger = state.ledger) : Aloof (modify change) := by
  intro state others haccounts
  change (change state).ledger.AccountsFor _
  rw [h state]
  exact haccounts

theorem settles_lend (bytes : Bytes) : Settles [] (lend bytes : Action σ Buffer) Buffer.loans := by
  intro state others h
  rw [List.append_nil] at h
  exact h.lend bytes

/-- A buffer that is passed on with a result is in hand with it, and let go of without one. -/
theorem settles_passing {buffer : Buffer} {result : Except LinkError α} {left : α → List Nat}
    (h : ∀ value, result = .ok value → left value = buffer.loans) :
    Settles buffer.loans (passing buffer result : Action σ α) left := by
  intro state others haccounts
  cases result with
  | ok value =>
    change state.ledger.AccountsFor (others ++ left value)
    rw [h value rfl]
    exact haccounts
  | error fault => exact haccounts.drop

/-- A buffer in hand is in other hands for what is done with it, and then let go of. -/
theorem settles_holding {buffer : Buffer} {operation : Action σ α} {left : α → List Nat}
    (h : operation.Settles [] left) : Settles buffer.loans (holding buffer operation) left := by
  intro state others haccounts
  have hsettled := h state (others ++ buffer.loans) (by rwa [List.append_nil])
  unfold holding
  cases hresult : operation state with
  | ok value next =>
    rw [hresult] at hsettled
    refine Ledger.AccountsFor.drop (hsettled.perm ?_)
    rw [List.append_assoc, List.append_assoc]
    exact List.perm_append_comm.append_left others
  | error fault next =>
    rw [hresult] at hsettled
    exact hsettled.drop

/-- In a sequence, what the first action leaves is for the second one to hold. -/
theorem settles_bind {held : List Nat} {first : Action σ α} {rest : α → Action σ β}
    {between : α → List Nat} {left : β → List Nat} (hfirst : first.Settles held between)
    (hrest : ∀ a, (rest a).Settles (between a) left) : Settles held (first >>= rest) left := by
  intro state others haccounts
  have hbetween := hfirst state others haccounts
  cases hresult : first state with
  | ok a mid =>
    rw [hresult] at hbetween
    rw [bind_of_ok hresult]
    exact hrest a mid others hbetween
  | error fault mid =>
    rw [hresult] at hbetween
    rw [bind_of_error hresult]
    exact hbetween

/-- A conclusion that has nothing to do with loans. -/
theorem settles_concluding {held : List Nat} {onOk : ConnectionStatus σ → ConnectionStatus σ}
    {onError : LinkError → ConnectionStatus σ → ConnectionStatus σ} {operation : Action σ α}
    {left : α → List Nat} (h : operation.Settles held left)
    (hok : ∀ state, (onOk state).ledger = state.ledger)
    (herror : ∀ error state, (onError error state).ledger = state.ledger) :
    Settles held (concluding onOk onError operation) left := by
  intro state others haccounts
  have hsettled := h state others haccounts
  unfold concluding
  cases hresult : operation state with
  | ok value next =>
    rw [hresult] at hsettled
    dsimp only
    rw [hok]
    exact hsettled
  | error fault next =>
    rw [hresult] at hsettled
    dsimp only
    rw [herror]
    exact hsettled

/-- However an action ends that has nothing to do with loans, the same are in hand. -/
theorem Aloof.accountsFor_after {operation : Action σ α} (h : operation.Aloof)
    {state : ConnectionStatus σ} {hand : List Nat} (haccounts : state.ledger.AccountsFor hand) :
    (operation.after state).ledger.AccountsFor hand := by
  have hsettled := h state hand (by rwa [List.append_nil])
  unfold after
  cases hresult : operation state with
  | ok value next =>
    rw [hresult] at hsettled
    dsimp only at hsettled
    rwa [List.append_nil] at hsettled
  | error fault next =>
    rw [hresult] at hsettled
    exact hsettled

end Action

namespace Connection

variable {connection : Connection σ} {mode : Mode}

open CommandLink.Action

@[simp] theorem ledger_shut (connection : Connection σ) (state : ConnectionStatus σ) :
    (connection.shut state).ledger = state.ledger := by
  obtain ⟨_, _, hshut, -⟩ := connection.shut_eq state
  rw [hshut]

@[simp] theorem ledger_shutStream (connection : Connection σ) (state : ConnectionStatus σ) :
    (connection.shutStream state).ledger = state.ledger := by
  unfold shutStream
  split <;> rfl

@[simp] theorem ledger_tell (state : ConnectionStatus σ) (listener : Option Listener)
    (event : CommandEvent) : (state.tell listener event).ledger = state.ledger := by
  cases listener with
  | none => rfl
  | some listener =>
    exact ConnectionStatus.tell_of_told (P := fun told => told.ledger = state.ledger)
      (fun _ _ hledger => hledger) rfl listener

theorem ledger_met (connection : Connection σ) (happening : Happening)
    (perform : σ → Answer α × σ) (state : ConnectionStatus σ) :
    (connection.met happening perform state).ledger = state.ledger := by
  unfold met
  dsimp only
  split
  · rw [ledger_shut]
    rfl
  · rfl

/-! ## Calls and messages -/

/-- **A call** has nothing to do with loans, however it is answered. -/
theorem settles_call (connection : Connection σ) (mode : Mode) (stage : Stage)
    (happening : Happening) (perform : σ → Answer α × σ) :
    Aloof (connection.call mode stage happening perform) := by
  intro state others haccounts
  have hmet : (connection.met happening perform state).ledger.AccountsFor (others ++ []) := by
    rw [ledger_met]
    exact haccounts
  have hnone : others ++ [] = others := List.append_nil others
  by_cases hrefused : mode = .awaited ∧ state.isClosed
  · rw [call_of_refused hrefused]
    exact hnone ▸ haccounts
  · cases houtcome : (perform state.stream).1.outcome with
    | done value =>
      rw [call_of_done hrefused houtcome]
      exact hmet
    | failed failure =>
      rw [call_of_failed hrefused houtcome]
      exact hnone ▸ hmet
    | stalled =>
      rw [call_of_stalled hrefused houtcome]
      change (connection.shut _).ledger.AccountsFor others
      rw [ledger_shut]
      exact hnone ▸ hmet

theorem settles_closingOnFailure {held : List Nat} {operation : Action σ α}
    {left : α → List Nat} (h : operation.Settles held left) :
    Settles held (connection.closingOnFailure operation) left :=
  settles_concluding h (fun _ => rfl) fun _ => connection.ledger_shut

theorem settles_requireStream (connection : Connection σ) : Aloof connection.requireStream := by
  refine settles_bind settles_get ?_
  intro state
  split
  · exact settles_throw _ _
  · split
    · exact settles_throw _ _
    · exact aloof_pure ()

theorem settles_readBuffer (connection : Connection σ) (mode : Mode) (stage : Stage)
    (count : Nat) : Settles [] (connection.readBuffer mode stage count) Buffer.loans :=
  settles_bind (connection.settles_call _ _ _ _) fun bytes => settles_lend bytes

theorem settles_spareBuffer (connection : Connection σ) (size : Nat) :
    Settles [] (connection.spareBuffer size) Buffer.loans := by
  refine settles_bind (settles_modify fun _ => rfl) ?_
  intro _
  split
  · exact settles_lend []
  · exact settles_pure (Buffer.own []) Buffer.loans

theorem settles_unpack (connection : Connection σ) (header : Header) (body : Bytes)
    (limit : Nat) : Settles [] (connection.unpack header body limit) Response.loans := by
  refine settles_bind (settles_ofResult _) ?_
  intro envelope
  refine settles_bind (settles_ofResult _) ?_
  intro plan
  refine settles_bind (connection.settles_spareBuffer plan.2) ?_
  intro spare
  let fill := plan.1.uncompress (body.drop EnvelopeHeader.size) plan.2 spare.bytes
  -- other bytes in the spare buffer do not make it another loan
  let target : Buffer := { spare with bytes := fill.buffer }
  have hloans : target.loans = spare.loans := rfl
  rw [← hloans]
  refine settles_passing ?_
  intro response hresponse
  split at hresponse
  · cases hresponse
    rfl
  · cases hresponse

/-- What is assembled from a body holds on to it, or to a buffer that took its place. -/
theorem settles_assemble (connection : Connection σ) (header : Header) (body : Buffer)
    (limit : Nat) : Settles body.loans (connection.assemble header body limit) Response.loans := by
  unfold assemble
  split
  · exact settles_passing nofun
  · split
    · exact settles_holding (connection.settles_unpack header body.bytes limit)
    · exact settles_pure (⟨header.toInbound, body⟩ : Response) Response.loans

/-- **Receiving** leaves the body of what was received, and nothing if it fails. -/
theorem settles_receiveWithin (connection : Connection σ) (mode : Mode) (limit : Nat) :
    Settles [] (connection.receiveWithin mode limit) Response.loans := by
  refine settles_bind (settles_modify fun _ => rfl) ?_
  intro _
  refine settles_bind (connection.settles_readBuffer mode _ _) ?_
  intro front
  refine settles_holding ?_
  refine settles_bind (settles_ofResult _) ?_
  intro header
  refine settles_bind (connection.settles_readBuffer mode _ _) ?_
  intro body
  exact connection.settles_assemble header body limit

theorem settles_receive (connection : Connection σ) (mode : Mode) (responseTo : UInt32) :
    Settles [] (connection.receive mode responseTo) Response.loans := by
  refine settles_bind connection.settles_requireStream ?_
  intro _
  refine settles_bind settles_get ?_
  intro state
  refine settles_closingOnFailure ?_
  refine settles_bind (connection.settles_receiveWithin mode _) ?_
  intro response
  refine settles_passing ?_
  intro checked hchecked
  unfold checkAnswers at hchecked
  split at hchecked
  · cases hchecked
    rfl
  · cases hchecked

theorem settles_send (connection : Connection σ) (mode : Mode) (bytes : Bytes)
    (requestId : UInt32) : Aloof (connection.send mode bytes requestId) := by
  refine settles_bind connection.settles_requireStream ?_
  intro _
  refine settles_bind (settles_modify fun _ => rfl) ?_
  intro _
  exact settles_closingOnFailure (connection.settles_call _ _ _ _)

theorem settles_borrowBuffer (connection : Connection σ) (size : Nat) :
    Settles [] (connection.borrowBuffer size) Buffer.loans := by
  refine settles_bind settles_get ?_
  intro state
  split
  · exact connection.settles_spareBuffer size
  · exact settles_throw _ _

/-! ## Commands -/

theorem settles_complete (connection : Connection σ) (dispatch : Dispatch) (response : Response)
    (decode : RawDocument → Except LinkError α) :
    Aloof (connection.complete dispatch response decode) := by
  refine settles_bind (settles_ofResult _) ?_
  intro reply
  refine settles_bind (settles_ofResult _) ?_
  intro success
  split
  · refine settles_bind (settles_modify fun state => ledger_tell state _ _) ?_
    exact fun _ => settles_ofResult _
  · exact settles_bind (settles_ofResult _) fun document => settles_throw _ _

/-- **A command** leaves nothing: its response is let go of when it is decoded, or cannot be. -/
theorem settles_command (connection : Connection σ) (mode : Mode) (message : Command)
    (decode : RawDocument → Except LinkError α) :
    Aloof (connection.command mode message decode) := by
  refine settles_bind connection.settles_requireStream ?_
  intro _
  refine settles_bind settles_get ?_
  intro state
  refine settles_bind (settles_ofResult _) ?_
  intro bytes
  refine settles_bind (settles_modify fun told => ledger_tell told _ _) ?_
  intro _
  unfold converse
  rw [failing_eq]
  refine settles_concluding ?_ (fun _ => rfl) fun error failed => ?_
  · refine settles_bind (connection.settles_call _ _ _ _) ?_
    intro _
    refine settles_bind (connection.settles_receiveWithin mode _) ?_
    intro response
    exact settles_holding (connection.settles_complete _ response decode)
  · rw [ledger_shut, ledger_tell]

/-! ## Opening -/

theorem settles_begin (connection : Connection σ) : Aloof connection.begin := by
  refine settles_bind settles_get ?_
  intro state
  split
  · exact settles_throw _ _
  · exact settles_throw _ _
  · exact settles_throw _ _
  · refine settles_bind (settles_modify fun _ => rfl) ?_
    intro _
    refine settles_bind (settles_closingOnFailure (connection.settles_call _ _ _ _)) ?_
    intro _
    refine settles_bind (settles_modify fun _ => rfl) ?_
    intro _
    refine settles_bind settles_get ?_
    intro made
    split
    · exact settles_bind (settles_modify connection.ledger_shutStream) fun _ => settles_throw _ _
    · exact aloof_pure _

theorem settles_describe (connection : Connection σ) (mode : Mode) :
    Aloof (connection.describe mode) := by
  have hnumber : Aloof (takeRequestId : Action σ UInt32) :=
    settles_bind settles_get fun state =>
      settles_bind (settles_modify fun _ => rfl) fun _ => aloof_pure _
  have hprepare : ∀ describe : ConnectionProfile → Except LinkError ConnectionProfile,
      Aloof (σ := σ) (do Action.ofResult (describe (← get).profile)) :=
    fun describe => settles_bind settles_get fun state => settles_ofResult _
  unfold describe
  split
  · refine settles_bind hnumber ?_
    intro requestId
    refine settles_bind (connection.settles_command mode _ _) ?_
    intro reply
    exact settles_bind settles_get fun state => aloof_pure _
  · unfold prepare
    split
    · exact settles_bind (settles_modify connection.ledger_shut) fun _ => hprepare _
    · exact hprepare _

theorem settles_adopt (connection : Connection σ) (profile : ConnectionProfile) :
    Aloof (connection.adopt profile) := by
  refine settles_bind (settles_ofResult _) ?_
  intro sendCompressor
  refine settles_bind (settles_modify fun _ => rfl) ?_
  intro _
  refine settles_bind settles_get ?_
  intro state
  split
  · exact settles_modify fun _ => rfl
  · exact settles_throw _ _

/-- **Opening** leaves nothing either. -/
theorem settles_establish (connection : Connection σ) (mode : Mode) :
    Aloof (connection.establish mode) := by
  have hopening : Aloof (do
      connection.call mode .opening .connected (connection.transport.connect mode)
      connection.adopt (← connection.describe mode)) :=
    settles_bind (connection.settles_call _ _ _ _) fun _ =>
      settles_bind (connection.settles_describe mode) connection.settles_adopt
  refine settles_bind connection.settles_begin ?_
  intro _
  exact settles_bind (settles_closingOnFailure hopening) fun _ => settles_modify fun _ => rfl

end Connection

end CommandLink
