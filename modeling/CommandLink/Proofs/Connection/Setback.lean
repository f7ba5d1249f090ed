import CommandLink.Connection.Setback
import CommandLink.Proofs.Connection.Lifecycle
import CommandLink.Proofs.Connection.Negotiation

/-!
# Setbacks and the errors that they are

Whatever operation meets a setback, at whatever call of it, fails with the error that the setback
is (`failsWith_perform`), and closes the connection. That is the error which the failure carries, as
it is, or one of the kind that belongs to the failure and the stage, with the failure as its source
(`transport_errors_translated`).
-/

namespace CommandLink

open Connection

variable {σ α : Type}

/-! ## The error that a failure is -/

theorem Stage.kind_errorOf (stage : Stage) (address : Address) (kind : FailureKind)
    (text : String) : (stage.errorOf address kind text).kind = stage.kindOf kind := by
  cases stage <;> cases kind <;> rfl

/-- The failure is the source of the error, unless that is of a kind that has no source. -/
theorem Stage.source?_errorOf (stage : Stage) (address : Address) (kind : FailureKind)
    (text : String) :
    (stage.errorOf address kind text).source? =
      if stage.kindOf kind = .protocolFraming then none else some (.plain kind text) := by
  cases stage <;> cases kind <;> rfl

namespace Connection

variable {connection : Connection σ} {state : ConnectionStatus σ} {mode : Mode} {limit : Nat}
  {setback : Setback}

/-- An action that fails with the error that a setback is. -/
def FailsWith (connection : Connection σ) (operation : Action σ α) (setback : Setback)
    (state : ConnectionStatus σ) : Prop :=
  ∃ next, operation state = .error (setback.error connection.address) next

theorem FailsWith.bind {first : Action σ α} {β : Type} {rest : α → Action σ β}
    (h : connection.FailsWith first setback state) :
    connection.FailsWith (first >>= rest) setback state := by
  obtain ⟨next, hfirst⟩ := h
  exact ⟨next, Action.bind_of_error hfirst⟩

/-- What fails after something that was done fails as a whole. -/
theorem FailsWith.of_bind {first : Action σ α} {β : Type} {rest : α → Action σ β} {a : α}
    {next : ConnectionStatus σ} (hfirst : first state = .ok a next)
    (hrest : connection.FailsWith (rest a) setback next) :
    connection.FailsWith (first >>= rest) setback state := by
  obtain ⟨last, hrest⟩ := hrest
  exact ⟨last, (Action.bind_of_ok hfirst).trans hrest⟩

theorem FailsWith.holding {operation : Action σ α} (buffer : Buffer)
    (h : connection.FailsWith operation setback state) :
    connection.FailsWith (.holding buffer operation) setback state := by
  obtain ⟨next, hoperation⟩ := h
  exact ⟨_, Action.concluding_of_error hoperation⟩

theorem FailsWith.closingOnFailure {operation : Action σ α}
    (h : connection.FailsWith operation setback state) :
    connection.FailsWith (connection.closingOnFailure operation) setback state := by
  obtain ⟨next, hoperation⟩ := h
  exact ⟨_, closingOnFailure_of_error hoperation⟩

/-- **A call** that fails on a connection that is not closed fails with the error that it is. -/
theorem failsWith_call {stage : Stage} {happening : Happening} {perform : σ → Answer α × σ}
    {closes : Bool} {failure : TransportError} (hopen : state.phase ≠ .closed)
    (hanswer : (perform state.stream).1 = ⟨closes, .failed failure⟩) :
    connection.FailsWith (connection.call mode stage happening perform)
      ⟨stage, failure, closes⟩ state := by
  have hcall := @call_of_failed _ _ connection state mode stage happening perform failure
    (begun_of_not_closed hopen) (by rw [hanswer])
  have hclosed : (connection.met happening perform state).isClosed = closes := by
    unfold met
    rw [hanswer]
    cases closes with
    | true => exact ConnectionStatus.isClosed_iff.mpr (connection.phase_shut _)
    | false => exact decide_eq_false hopen
  have herror : connection.failureOf (connection.met happening perform state) stage failure =
      Setback.error ⟨stage, failure, closes⟩ connection.address := by
    unfold failureOf
    rw [hclosed]
    rfl
  rw [herror] at hcall
  exact ⟨_, hcall⟩

/-! ## Operations that meet a setback -/

/-- **Receiving** fails with a setback of its reads. -/
theorem failsWith_receiveWithin (hopen : state.phase ≠ .closed)
    (hfails : connection.transport.FailsReading mode limit state.stream setback) :
    connection.FailsWith (connection.receiveWithin mode limit) setback state := by
  let logged := state.log .trace "receiving message" [("address", connection.address.text)]
  show connection.FailsWith (connection.readBuffer mode .readingHeader Header.size >>= _) setback
    logged
  have hlogged : logged.phase ≠ .closed := hopen
  cases hfails with
  | header hread => exact (failsWith_call hlogged hread).bind.bind
  | @body front fronted header closes failure hfront hdecode hread =>
    let called := ({ logged with stream := fronted } : ConnectionStatus σ).note (.asked Header.size)
    let lent := { called with ledger := (called.ledger.lend front).2 }
    have hcall : connection.call mode .readingHeader (.asked Header.size)
        (connection.transport.read mode Header.size) logged = .ok front called :=
      call_of_answered hlogged hfront
    have hbuffer : connection.readBuffer mode .readingHeader Header.size logged =
        .ok (called.ledger.lend front).1 lent := Action.bind_of_ok hcall
    have hbody : connection.FailsWith
        (connection.readBuffer mode .readingBody header.bodySize) ⟨.readingBody, failure, closes⟩
        lent := (failsWith_call (show lent.phase ≠ .closed from hopen) hread).bind
    apply FailsWith.of_bind hbuffer
    apply FailsWith.holding
    unfold FailsWith
    rw [Action.ofResult_bind_of_ok (show Header.decode (called.ledger.lend front).1.bytes limit =
      .ok header from hdecode)]
    exact hbody.bind

/-- **Conversing** fails with a setback of its write or of its reads. -/
theorem failsWith_converse {dispatch : Dispatch} {bytes : Bytes}
    {decode : RawDocument → Except LinkError α} (hopen : state.phase ≠ .closed)
    (hfails : connection.transport.FailsConversing mode bytes limit state.stream setback) :
    connection.FailsWith (connection.converse mode dispatch bytes limit decode) setback state := by
  have hexchange : connection.FailsWith
      (connection.exchange mode dispatch bytes limit decode) setback state := by
    cases hfails with
    | writing hwrite => exact (failsWith_call hopen hwrite).bind
    | @reading written _ hwrite hread =>
      have hcall : connection.call mode .writing (.wrote bytes)
          (connection.transport.write mode bytes) state =
            .ok () (({ state with stream := written } : ConnectionStatus σ).note (.wrote bytes)) :=
        call_of_answered hopen hwrite
      apply FailsWith.of_bind hcall
      apply FailsWith.bind
      exact failsWith_receiveWithin hopen hread
  obtain ⟨next, hexchange⟩ := hexchange
  exact ⟨_, Action.concluding_of_error hexchange⟩

/-- **A command** that is put into bytes fails with a setback of its conversation. -/
theorem failsWith_command {message : Command} {decode : RawDocument → Except LinkError α}
    {bytes : Bytes} (husable : state.Usable)
    (hbytes : connection.outgoing state message = .ok bytes)
    (hfails : connection.transport.FailsConversing mode bytes state.profile.limits.messageSize
      state.stream setback) :
    connection.FailsWith (connection.command mode message decode) setback state := by
  obtain ⟨_, _, htold⟩ := alike_tell state (connection.dispatch state message).audience
    ((connection.dispatch state message).identity.started message)
  unfold FailsWith
  rw [command_of_outgoing husable hbytes, htold]
  exact failsWith_converse husable.notClosed hfails

/-- **Every operation** fails with the setback that it meets. -/
theorem failsWith_perform {operation : Operation} (h : connection.Meets state operation setback) :
    connection.FailsWith (operation.perform connection) setback state := by
  cases h with
  | @creating mode closes failure hphase hcreate =>
    have hbegin : connection.FailsWith connection.begin ⟨.opening, failure, closes⟩ state := by
      unfold FailsWith begin
      rw [Action.get_bind, hphase]
      dsimp only
      rw [Action.modify_bind]
      apply FailsWith.bind
      apply FailsWith.closingOnFailure
      exact failsWith_call nofun hcreate
    exact hbegin.bind
  | @connecting mode made closes failure hphase hcreate hconnect =>
    show connection.FailsWith (connection.establish mode) _ state
    apply FailsWith.of_bind (begin_of_created hphase hcreate)
    apply FailsWith.bind
    apply FailsWith.closingOnFailure
    apply FailsWith.bind
    exact failsWith_call nofun hconnect
  | @asking mode made connected _ _ _ hphase hcreate hconnect hinitializer hbytes hfails =>
    have husable := usable_asking state connected
    show connection.FailsWith (connection.establish mode) setback state
    unfold FailsWith
    rw [establish_of_connected hphase hinitializer hcreate hconnect]
    apply FailsWith.bind
    apply FailsWith.closingOnFailure
    apply FailsWith.bind
    exact failsWith_command husable hbytes hfails
  | command hphase hstream hbytes hfails =>
    exact failsWith_command ⟨hphase, hstream⟩ hbytes hfails
  | @send mode bytes requestId closes failure hphase hstream hwrite =>
    show connection.FailsWith (connection.send mode bytes requestId) _ state
    apply FailsWith.of_bind (connection.requireStream_of_usable ⟨hphase, hstream⟩)
    unfold FailsWith
    rw [Action.modify_bind]
    apply FailsWith.closingOnFailure
    exact failsWith_call hphase hwrite
  | @receive mode responseTo _ hphase hstream hfails =>
    show connection.FailsWith (connection.receive mode responseTo) setback state
    apply FailsWith.of_bind (connection.requireStream_of_usable ⟨hphase, hstream⟩)
    apply FailsWith.of_bind (Action.get_eq state)
    apply FailsWith.closingOnFailure
    apply FailsWith.bind
    exact failsWith_receiveWithin hphase hfails

/-- An operation that fails after it has met a setback has closed the connection. -/
theorem closed_of_meets {operation : Operation} {error : LinkError} {next : ConnectionStatus σ}
    (h : connection.Meets state operation setback)
    (hperform : operation.perform connection state = .error error next) :
    next.phase = .closed := by
  have hopening : ∀ mode, state.phase = .unopened →
      connection.establish mode state = .error error next → next.phase = .closed := by
    intro mode hphase hestablish
    rcases closed_of_establish hestablish with hclosed | ⟨hopened | hopened, -⟩
    · exact hclosed
    · cases hphase.symm.trans hopened
    · cases hphase.symm.trans hopened
  cases h with
  | creating hphase hcreate => exact hopening _ hphase hperform
  | connecting hphase hcreate hconnect => exact hopening _ hphase hperform
  | asking hphase hcreate hconnect hinitializer hbytes hfails =>
    exact hopening _ hphase hperform
  | @command α mode message decode _ _ hphase hstream hbytes hfails =>
    change connection.command mode message decode state = _ at hperform
    rw [command_of_outgoing ⟨hphase, hstream⟩ hbytes] at hperform
    exact error_of_failing hperform
  | @send mode bytes requestId _ _ hphase hstream hwrite =>
    change (connection.requireStream >>= _) state = _ at hperform
    rw [Action.bind_of_ok (connection.requireStream_of_usable ⟨hphase, hstream⟩)] at hperform
    exact error_of_closingOnFailure hperform
  | @receive mode responseTo _ hphase hstream hfails =>
    change (connection.requireStream >>= _) state = _ at hperform
    rw [Action.bind_of_ok (connection.requireStream_of_usable ⟨hphase, hstream⟩)] at hperform
    exact error_of_closingOnFailure hperform

end Connection

/-- **Failures of the transport become errors once.** Whatever operation meets a setback, in either
form and at any of its calls, fails, and the connection is closed. A failure that carries an error
of the connection gives just that error. One of the transport's own gives an error of the kind that
belongs to it and to the stage, which keeps it as its source, if errors of this kind have one. Where
the failing call has closed the connection, the error says so, in the words of the failure. -/
theorem transport_errors_translated {connection : Connection σ} {state : ConnectionStatus σ}
    {operation : Operation} {setback : Setback} (h : connection.Meets state operation setback) :
    ∃ error next, operation.perform connection state = .error error next ∧
      next.phase = .closed ∧
      match setback.closes, setback.failure with
      | true, failure => error = .closed connection.address (.stated failure.message)
      | false, .carried own => error = own
      | false, .plain kind text => error.kind = setback.stage.kindOf kind ∧
          error.source? = if error.kind = .protocolFraming then none else some (.plain kind text) := by
  obtain ⟨next, hperform⟩ := failsWith_perform h
  refine ⟨_, next, hperform, closed_of_meets h hperform, ?_⟩
  obtain ⟨stage, failure, closes⟩ := setback
  cases closes with
  | true => rfl
  | false =>
    cases failure with
    | carried own => rfl
    | plain kind text =>
      have hkind := stage.kind_errorOf connection.address kind text
      refine ⟨hkind, ?_⟩
      show (stage.errorOf connection.address kind text).source? =
        if (stage.errorOf connection.address kind text).kind = .protocolFraming then none
        else some (.plain kind text)
      rw [hkind]
      exact stage.source?_errorOf connection.address kind text

/-- A peer that sends a header and then, instead of a body, an error of the connection. -/
def ScriptedPeer.breakingOff : ScriptedPeer :=
  (follow (answer (.done ())) (answer (.done ()))).pushTurns
    [.accept [.raw (Header.encode ⟨34, 9, 1, 2013⟩), .fail (.carried (.encode .unwritableCommand))]
      false]

/-- A ping whose reply breaks off fails with that error as it is, and the connection is closed. -/
theorem transport_errors_translated_carried :
    ∃ state next, (ScriptedPeer.connection.run [.establish .blocking]
        (ScriptedPeer.connection.start .breakingOff .initial)).1 = state ∧
      ScriptedPeer.connection.command .awaited (.ofCommand 1 "app" [("ping", .int32 1)])
        RawDocument.toDocument state = .error (.encode .unwritableCommand) next ∧
      next.phase = .closed := by
  let state := (ScriptedPeer.connection.run [.establish .blocking]
    (ScriptedPeer.connection.start .breakingOff .initial)).1
  have hmeets : ScriptedPeer.connection.Meets state
      (.command .awaited (.ofCommand 1 "app" [("ping", .int32 1)]) RawDocument.toDocument)
      ⟨.readingBody, .carried (.encode .unwritableCommand), false⟩ :=
    .command (by decide) rfl rfl (.reading rfl (.body rfl rfl rfl))
  obtain ⟨_, next, hperform, hclosed, rfl⟩ := transport_errors_translated hmeets
  exact ⟨_, next, rfl, hperform, hclosed⟩

end CommandLink
