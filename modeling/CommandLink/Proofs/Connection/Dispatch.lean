import CommandLink.Proofs.Connection.Closing

/-!
# What a command did

A command comes to nothing before its bytes are there, and then nothing has changed, or it is a
conversation (`command_of_outgoing`). One that succeeded went through all of its steps: its bytes
were written, a message was received within the limit, and that was a reply which reports success
and could be decoded (`ok_of_command`). One that failed has closed the connection, unless it came to
nothing (`error_of_command`).
-/

namespace CommandLink.Connection

variable {σ α : Type} {connection : Connection σ} {state next : ConnectionStatus σ}
  {error : LinkError}

/-- Telling of an event only writes into the journal. -/
theorem alike_tell (state : ConnectionStatus σ) (listener : Option Listener)
    (event : CommandEvent) : state.Alike (state.tell listener event) := by
  cases listener with
  | none => exact .refl state
  | some listener =>
    exact ConnectionStatus.tell_of_told (fun told record halike => halike.trans (.note told _))
      (.note state (.told event)) listener

@[simp] theorem phase_tell (state : ConnectionStatus σ) (listener : Option Listener)
    (event : CommandEvent) : (state.tell listener event).phase = state.phase := by
  obtain ⟨_, _, htold⟩ := alike_tell state listener event
  rw [htold]

/-! ## Whether there is a conversation -/

section Beginning

variable {mode : Mode} {message : Command} {decode : RawDocument → Except LinkError α}

/-- Without a usable stream a command comes to nothing. -/
theorem command_of_not_usable (husable : ¬ state.Usable) :
    ∃ fault, connection.command mode message decode state = .error fault state := by
  obtain ⟨fault, hrefused⟩ := connection.requireStream_of_not_usable husable
  exact ⟨fault, Action.bind_of_error hrefused⟩

/-- So does one that cannot be put into bytes. -/
theorem command_of_outgoing_error (husable : state.Usable) {fault : LinkError}
    (hbytes : connection.outgoing state message = .error fault) :
    connection.command mode message decode state = .error fault state := by
  unfold command
  rw [Action.bind_of_ok (connection.requireStream_of_usable husable), Action.get_bind,
    Action.ofResult_bind_of_error hbytes]

/-- Any other one is told of, and then conversed. -/
theorem command_of_outgoing (husable : state.Usable) {bytes : Bytes}
    (hbytes : connection.outgoing state message = .ok bytes) :
    connection.command mode message decode state =
      connection.converse mode (connection.dispatch state message) bytes
        state.profile.limits.messageSize decode
        (state.tell (connection.dispatch state message).audience
          ((connection.dispatch state message).identity.started message)) := by
  unfold command
  rw [Action.bind_of_ok (connection.requireStream_of_usable husable), Action.get_bind,
    Action.ofResult_bind_of_ok hbytes]
  rfl

end Beginning

/-! ## Failures -/

/-- A command under way that fails tells of its failure and closes the connection. -/
theorem failing_eq (dispatch : Dispatch) (operation : Action σ α) :
    connection.failing dispatch operation =
      Action.concluding id
        (fun error state =>
          connection.shut (state.tell dispatch.audience (dispatch.identity.failed error)))
        operation := rfl

theorem error_of_failing {dispatch : Dispatch} {operation : Action σ α}
    (h : connection.failing dispatch operation state = .error error next) :
    next.phase = .closed := by
  rw [failing_eq] at h
  obtain ⟨mid, -, rfl⟩ := Action.error_of_concluding h
  exact connection.phase_shut _

theorem ok_of_failing {dispatch : Dispatch} {operation : Action σ α} {value : α}
    (h : connection.failing dispatch operation state = .ok value next) :
    operation state = .ok value next := by
  rw [failing_eq] at h
  obtain ⟨mid, hoperation, rfl⟩ := Action.ok_of_concluding h
  exact hoperation

/-- **A command** fails with nothing changed, or closes the connection. -/
theorem error_of_command {mode : Mode} {message : Command}
    {decode : RawDocument → Except LinkError α}
    (h : connection.command mode message decode state = .error error next) :
    next = state ∨ next.phase = .closed := by
  rcases error_of_requireStream_bind h with hsame | ⟨-, h⟩
  · exact .inl hsame
  · rw [Action.get_bind] at h
    rcases Action.error_of_bind h with h | ⟨bytes, mid, -, h⟩
    · exact .inl (Action.error_of_ofResult h).2
    · exact .inr (error_of_failing h)

/-! ## Successes -/

/-- What goes out for a command: its bytes as they are, or packed by the compressor for sending. -/
theorem outgoing_eq_ok {state : ConnectionStatus σ} {message : Command} {bytes : Bytes}
    (h : connection.outgoing state message = .ok bytes) :
    ∃ encoded, message.encode state.profile.limits = .ok encoded ∧
      (((state.sendCompressor = none ∨ message.isSensitive = true) ∧ bytes = encoded.bytes) ∨
        ∃ compressor, state.sendCompressor = some compressor ∧ message.isSensitive = false ∧
          encoded.compress compressor state.profile.limits connection.packing = .ok bytes) := by
  unfold outgoing at h
  cases hencode : message.encode state.profile.limits with
  | error fault =>
    simp only [bind, Except.bind, hencode] at h
    cases h
  | ok encoded =>
    simp only [bind, Except.bind, hencode] at h
    refine ⟨encoded, rfl, ?_⟩
    cases hcompressor : state.sendCompressor with
    | none =>
      rw [hcompressor] at h
      cases h
      exact .inl ⟨.inl rfl, rfl⟩
    | some compressor =>
      rw [hcompressor] at h
      cases hsensitive : message.isSensitive with
      | true =>
        rw [hsensitive] at h
        cases h
        exact .inl ⟨.inr rfl, rfl⟩
      | false =>
        rw [hsensitive] at h
        exact .inr ⟨compressor, rfl, rfl, h⟩

/-- What was completed is a reply that reports success, and its document decoded. -/
theorem ok_of_complete {dispatch : Dispatch} {response : Response}
    {decode : RawDocument → Except LinkError α} {value : α}
    (h : connection.complete dispatch response decode state = .ok value next) :
    ∃ reply, Reply.parse response.header response.body.bytes dispatch.identity.requestId =
        .ok reply ∧
      reply.document.reportsSuccess = .ok true ∧ decode reply.document = .ok value ∧
      next = state.tell dispatch.audience (dispatch.identity.succeeded reply.document) := by
  obtain ⟨reply, hparse, h⟩ := Action.ok_of_ofResult_bind h
  obtain ⟨success, hsuccess, h⟩ := Action.ok_of_ofResult_bind h
  cases success with
  | true =>
    obtain ⟨hdecode, rfl⟩ := Action.ok_of_ofResult h
    exact ⟨reply, hparse, hsuccess, hdecode, rfl⟩
  | false =>
    obtain ⟨document, -, h⟩ := Action.ok_of_ofResult_bind h
    cases h

/-- A conversation that succeeded wrote, received and completed. -/
theorem ok_of_converse {mode : Mode} {dispatch : Dispatch} {bytes : Bytes} {limit : Nat}
    {decode : RawDocument → Except LinkError α} {value : α}
    (h : connection.converse mode dispatch bytes limit decode state = .ok value next) :
    ∃ written response received completed,
      connection.call mode .writing (.wrote bytes) (connection.transport.write mode bytes) state =
        .ok () written ∧
      connection.receiveWithin mode limit written = .ok response received ∧
      connection.complete dispatch response decode received = .ok value completed ∧
      next = completed.drop response.body := by
  obtain ⟨_, written, hwrite, h⟩ := Action.ok_of_bind (ok_of_failing h)
  obtain ⟨response, received, hreceive, h⟩ := Action.ok_of_bind h
  obtain ⟨completed, hcomplete, hnext⟩ := Action.ok_of_holding h
  exact ⟨written, response, received, completed, hwrite, hreceive, hcomplete, hnext⟩

/-- **A command that succeeded** began in a usable state, was put into bytes and conversed. -/
theorem ok_of_command {mode : Mode} {message : Command}
    {decode : RawDocument → Except LinkError α} {value : α}
    (h : connection.command mode message decode state = .ok value next) :
    state.Usable ∧ ∃ bytes, connection.outgoing state message = .ok bytes ∧
      connection.converse mode (connection.dispatch state message) bytes
          state.profile.limits.messageSize decode
          (state.tell (connection.dispatch state message).audience
            ((connection.dispatch state message).identity.started message)) =
        .ok value next := by
  obtain ⟨husable, h⟩ := ok_of_requireStream_bind h
  rw [Action.get_bind] at h
  obtain ⟨bytes, hbytes, h⟩ := Action.ok_of_ofResult_bind h
  exact ⟨husable, bytes, hbytes, h⟩

end CommandLink.Connection
