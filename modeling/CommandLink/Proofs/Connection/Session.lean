import CommandLink.Connection.Session
import CommandLink.Proofs.Connection.Opening

/-!
# What an operation leaves behind

An operation of any kind that fails has not begun, or it has closed the connection
(`error_of_perform`). On a closed connection no operation does more than to note and to lend
(`alike_of_closed`), so it stays closed.
-/

namespace CommandLink

/-- Whether an operation makes the stream or uses it. -/
def Operation.usesStream : Operation → Bool
  | establish _ | command _ _ _ | send _ _ _ | receive _ _ => true
  | borrow _ | drop _ | close => false

namespace Connection

variable {σ : Type} {connection : Connection σ} {state next : ConnectionStatus σ}
  {error : LinkError}

/-- Borrowing a buffer touches no more than the buffers and the journal. -/
theorem alike_of_borrowBuffer (connection : Connection σ) (size : Nat)
    (state : ConnectionStatus σ) :
    state.Alike ((connection.borrowBuffer size).after state) := by
  unfold borrowBuffer Action.after
  rw [Action.get_bind]
  cases state.hasStream with
  | true =>
    obtain ⟨loan, next, hspare, halike⟩ := connection.spareBuffer_eq size state
    rw [if_pos rfl, hspare]
    exact halike
  | false => exact .refl state

theorem error_of_borrowBuffer {size : Nat}
    (h : connection.borrowBuffer size state = .error error next) : next = state := by
  unfold borrowBuffer at h
  rw [Action.get_bind] at h
  split at h
  · obtain ⟨loan, left, hspare, -⟩ := connection.spareBuffer_eq size state
    rw [hspare] at h
    cases h
  · cases h
    rfl

/-- **An operation that fails** has not begun, and the state is as it was, or it has closed the
connection. -/
theorem error_of_perform {operation : Operation}
    (h : operation.perform connection state = .error error next) :
    next = state ∨ next.phase = .closed := by
  cases operation with
  | establish mode => exact error_of_establish h
  | command mode message decode => exact error_of_command h
  | send mode bytes requestId => exact error_of_send h
  | receive mode responseTo => exact error_of_receive h
  | borrow size => exact .inl (error_of_borrowBuffer h)
  | drop buffer => cases h
  | close => cases h

/-- **A closed connection refuses** to make a stream or to use it, and nothing changes. -/
theorem refused_of_closed (hclosed : state.phase = .closed) {operation : Operation}
    (huses : operation.usesStream = true) :
    operation.perform connection state = .error (connection.closedError .before) state := by
  cases operation with
  | establish mode => exact Action.bind_of_error (connection.begin_of_closed hclosed)
  | command mode message decode => exact connection.requireStream_bind_of_closed hclosed
  | send mode bytes requestId => exact connection.requireStream_bind_of_closed hclosed
  | receive mode responseTo => exact connection.requireStream_bind_of_closed hclosed
  | borrow size => cases huses
  | drop buffer => cases huses
  | close => cases huses

/-- **A closed connection stays closed**, and nothing but buffers and the journal may change. -/
theorem alike_of_closed (hclosed : state.phase = .closed) (operation : Operation) :
    state.Alike ((operation.perform connection).after state) := by
  cases huses : operation.usesStream with
  | true =>
    rw [Action.after_of_error (refused_of_closed hclosed huses)]
    exact .refl state
  | false =>
    cases operation with
    | borrow size => exact connection.alike_of_borrowBuffer size state
    | drop buffer => exact .drop state buffer
    | close =>
      have hshut : connection.shut state = state := shut_of_closed hclosed
      exact ⟨_, _, hshut⟩
    | establish mode => cases huses
    | command mode message decode => cases huses
    | send mode bytes requestId => cases huses
    | receive mode responseTo => cases huses

theorem fst_step (operation : Operation) (state : ConnectionStatus σ) :
    (operation.step connection state).1 = (operation.perform connection).after state := by
  unfold Operation.step Action.after
  cases operation.perform connection state with
  | ok result next => rfl
  | error fault next => rfl

/-- A session on a closed connection leaves it closed. -/
theorem closed_of_run (operations : List Operation) :
    ∀ {state : ConnectionStatus σ}, state.phase = .closed →
      (connection.run operations state).1.phase = .closed := by
  induction operations with
  | nil => exact fun hclosed => hclosed
  | cons operation rest ih =>
    intro state hclosed
    obtain ⟨_, _, halike⟩ := connection.alike_of_closed hclosed operation
    have hstep : (operation.step connection state).1.phase = .closed := by
      rw [fst_step, halike]
      exact hclosed
    exact ih hstep

/-! ## Open connections have streams -/

/-- The mark that there is a stream outlasts all that happens between calls. -/
theorem lasting_hasStream (connection : Connection σ) :
    connection.Lasting fun state next => next.hasStream = state.hasStream where
  refl _ := rfl
  trans hfirst hsecond := hsecond.trans hfirst
  logged _ _ := rfl
  waited _ := rfl
  ledger _ _ := rfl
  shut := connection.hasStream_shut

/-- So does the phase, unless the connection is closed. -/
theorem lasting_phase (connection : Connection σ) :
    connection.Lasting fun state next => next.phase = state.phase ∨ next.phase = .closed where
  refl _ := .inl rfl
  trans := by
    rintro state mid next hmid (hsame | hclosed)
    · rw [hsame]
      exact hmid
    · exact .inr hclosed
  logged _ _ := .inl rfl
  waited _ := .inl rfl
  ledger _ _ := .inl rfl
  shut state := .inr (connection.phase_shut state)

/-- The mark that there is a stream stays, and the phase too unless the connection is closed. -/
def Steady (state next : ConnectionStatus σ) : Prop :=
  next.hasStream = state.hasStream ∧ (next.phase = state.phase ∨ next.phase = .closed)

theorem lasting_steady (connection : Connection σ) : connection.Lasting Steady :=
  connection.lasting_hasStream.and connection.lasting_phase

/-- A connection that is open has a stream. -/
def Streamed (state : ConnectionStatus σ) : Prop :=
  state.phase = .opened → state.hasStream = true

theorem Streamed.of_steady (hstreamed : Streamed state) (hsteady : Steady state next) :
    Streamed next := by
  intro hopened
  rcases hsteady with ⟨hstream, hsame | hclosed⟩
  · rw [hstream]
    exact hstreamed (hsame ▸ hopened)
  · rw [hclosed] at hopened
    cases hopened

/-- Making the stream leaves the mark that there is one. -/
theorem hasStream_of_begin (h : connection.begin state = .ok () next) :
    next.hasStream = true := by
  obtain ⟨-, created, -, -, rfl⟩ := ok_of_begin h
  rfl

/-- What comes then leaves it there. -/
theorem hasStream_of_establish {mode : Mode} {result : Unit}
    (h : connection.establish mode state = .ok result next) : next.hasStream = true := by
  obtain ⟨made, connected, profile, described, adopted, hbegin, hconnect, hdescribe, hadopt, rfl⟩ :=
    ok_of_establish h
  have hlasting := connection.lasting_hasStream
  have hadopted : adopted.hasStream = described.hasStream :=
    (hlasting.keeps_adopt profile (fun _ _ => rfl) fun _ => rfl).of_ok hadopt
  have hdescribed : described.hasStream = connected.hasStream :=
    (hlasting.keeps_describe (fun _ _ => rfl) (fun _ _ => rfl) (fun _ _ => rfl)
      fun _ => ⟨fun _ => rfl, fun _ _ _ => rfl, fun _ _ _ => rfl⟩).of_ok hdescribe
  have hconnected : connected.hasStream = made.hasStream :=
    (hlasting.keeps_call fun _ => rfl).of_ok hconnect
  calc adopted.hasStream = made.hasStream := by rw [hadopted, hdescribed, hconnected]
    _ = true := hasStream_of_begin hbegin

/-- **An operation leaves an open connection with a stream**, if it found it so. -/
theorem streamed_of_step (operation : Operation) (hstreamed : Streamed state) :
    Streamed (operation.step connection state).1 := by
  have hlasting := connection.lasting_steady
  have hquiet : ∀ {event : Happening} (before : ConnectionStatus σ),
      Steady before (before.note event) := fun _ => ⟨rfl, .inl rfl⟩
  have hreceiving : ∀ mode limit, connection.AdmitsReceiving Steady mode limit :=
    fun _ _ => ⟨fun _ => ⟨rfl, .inl rfl⟩, fun _ _ _ => ⟨rfl, .inl rfl⟩, fun _ _ => hquiet⟩
  rw [fst_step]
  cases hresult : operation.perform connection state with
  | error fault next =>
    rw [Action.after_of_error hresult]
    rcases error_of_perform hresult with rfl | hclosed
    · exact hstreamed
    · intro hopened
      rw [hclosed] at hopened
      cases hopened
  | ok result next =>
    cases operation with
    | establish mode =>
      rw [Action.after_of_ok hresult]
      exact fun _ => hasStream_of_establish hresult
    | command mode message decode =>
      exact hstreamed.of_steady (hlasting.keeps_command (fun before _ => hquiet before) decode state
        (fun _ _ _ => ⟨rfl, .inl rfl⟩) (hreceiving mode _))
    | send mode bytes requestId =>
      exact hstreamed.of_steady
        (hlasting.keeps_send requestId (fun _ => ⟨rfl, .inl rfl⟩) state)
    | receive mode responseTo =>
      exact hstreamed.of_steady (hlasting.keeps_receive responseTo state (hreceiving mode _))
    | borrow size => exact hstreamed.of_steady (hlasting.keeps_borrowBuffer hquiet state)
    | drop buffer => exact hstreamed.of_steady (hlasting.drop state buffer)
    | close => exact hstreamed.of_steady (Action.keeps_modify hlasting.shut state)

theorem streamed_of_run (operations : List Operation) :
    ∀ {state : ConnectionStatus σ}, Streamed state →
      Streamed (connection.run operations state).1 := by
  induction operations with
  | nil => exact fun hstreamed => hstreamed
  | cons operation rest ih => exact fun hstreamed => ih (streamed_of_step operation hstreamed)

/-- **Every open connection has a stream**, whatever was done with it. -/
theorem streamed_of_start (connection : Connection σ) (stream : σ) (counters : Counters)
    (operations : List Operation) :
    Streamed (connection.run operations (connection.start stream counters)).1 :=
  streamed_of_run operations nofun

end Connection

end CommandLink
