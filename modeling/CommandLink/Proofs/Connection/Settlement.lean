import CommandLink.Proofs.Connection.Calls
import CommandLink.Proofs.Connection.Course
import CommandLink.Transport.Script

/-!
# All or closed

An operation on messages that fails has not used the stream, and nothing has changed, or it has
closed the connection and with it the stream, once (`all_or_closed`). One that succeeds changes
nothing that lasts. The one exception is not its own doing: a transport may close the connection in
the midst of a call and give its answer all the same (`sent_and_closed`). Whether it did is told by
the calls of the operation, made again over the stream that it found. Those of a transport that is
reserved never close the connection.
-/

namespace CommandLink

open Connection

variable {σ α : Type}

/-- The bytes that an entry of the journal tells were handed over. -/
def Happening.written? : Happening → Option Bytes
  | wrote bytes => some bytes
  | _ => none

/-- All that the transport was asked to write. -/
def ConnectionStatus.writes (state : ConnectionStatus σ) : List Bytes :=
  state.entries Happening.written?

/-- A transport that does not close the connection by reading or writing, as long as its streams are
of a kind that both of these leave them in. -/
structure Transport.Reserved (transport : Transport σ) (kind : σ → Prop) : Prop where
  write : ∀ {stream}, kind stream → ∀ mode bytes,
    (transport.write mode bytes stream).1.closes = false ∧
      kind (transport.write mode bytes stream).2
  read : ∀ {stream}, kind stream → ∀ mode count,
    (transport.read mode count stream).1.closes = false ∧
      kind (transport.read mode count stream).2

namespace Transport.Reserved

variable {connection : Connection σ} {kind : σ → Prop} {mode : Mode}
  {state next : ConnectionStatus σ}

/-- No calls of a reserved transport close the connection, and they leave the stream of its kind. -/
theorem meetAll_of_kind {transport : Transport σ} (hreserved : transport.Reserved kind)
    (calls : List StreamCall) {stream : σ} (hkind : kind stream) :
    (transport.meetAll mode stream calls).1 = false ∧
      kind (transport.meetAll mode stream calls).2 := by
  induction calls generalizing stream with
  | nil => exact ⟨rfl, hkind⟩
  | cons call rest ih =>
    have hmet : (transport.meet mode stream call).1 = false ∧
        kind (transport.meet mode stream call).2 := by
      cases call with
      | write bytes => exact hreserved.write hkind mode bytes
      | read count => exact hreserved.read hkind mode count
    rw [Transport.meetAll, if_neg (Bool.eq_false_iff.mp hmet.1)]
    exact ih hmet.2

/-- The phase is the same as before, and the stream still of the kind. -/
def Kept (kind : σ → Prop) (state next : ConnectionStatus σ) : Prop :=
  next.phase = state.phase ∧ kind next.stream

theorem Kept.notClosed (hkept : Kept kind state next) (hopen : state.phase ≠ .closed) :
    next.phase ≠ .closed :=
  fun hclosed => hopen (hkept.1.symm.trans hclosed)

/-- **A run through the calls of a reserved transport** keeps the phase. -/
theorem kept_of_ran (hreserved : connection.transport.Reserved kind)
    (hran : connection.Ran mode state next) (hkind : kind state.stream) : Kept kind state next := by
  obtain ⟨calls, -, hran⟩ := hran
  obtain ⟨hopen, hleft⟩ := hreserved.meetAll_of_kind calls hkind
  rw [if_neg (Bool.eq_false_iff.mp hopen)] at hran
  exact ⟨hran.1, hran.2 ▸ hleft⟩

end Transport.Reserved

namespace Connection

/-- What a successful use of the stream leaves: profile and compressor for sending as they were, and
the phase too, unless one of the calls that it made of the stream has closed the connection. Just
then the connection is closed, and its stream was closed once. -/
structure Unharmed (connection : Connection σ) (mode : Mode) (state next : ConnectionStatus σ) :
    Prop where
  profile : next.profile = state.profile
  sendCompressor : next.sendCompressor = state.sendCompressor
  ran : ∃ calls, next.calls = state.calls ++ calls ∧
    if (connection.transport.meetAll mode state.stream calls).1 = true then
      next.phase = .closed ∧ next.closings = state.closings + 1
    else next.phase = state.phase ∧ next.closings = state.closings

/-- What a failed use of the stream leaves: the connection is closed, and its stream was closed
once. -/
structure Ended (state next : ConnectionStatus σ) : Prop where
  phase : next.phase = .closed
  closings : next.closings = state.closings + 1

variable {connection : Connection σ} {state next : ConnectionStatus σ}

theorem Intact.unharmed {mode : Mode} (hintact : Intact state next) (husable : state.Usable)
    (hran : connection.Ran mode state next) : connection.Unharmed mode state next where
  profile := hintact.profile
  sendCompressor := hintact.sendCompressor
  ran := by
    obtain ⟨calls, hcalls, hran⟩ := hran
    refine ⟨calls, hcalls, ?_⟩
    cases hcloses : (connection.transport.meetAll mode state.stream calls).1 with
    | true =>
      rw [if_pos hcloses] at hran
      rw [if_pos rfl]
      exact ⟨hran, ConnectionStatus.closings_of_course hintact.course husable hran⟩
    | false =>
      rw [if_neg (Bool.eq_false_iff.mp hcloses)] at hran
      rw [if_neg Bool.false_ne_true]
      have hstill : next.Usable :=
        ⟨fun hclosed => husable.notClosed (hran.1 ▸ hclosed),
          hintact.steady.1.trans husable.hasStream⟩
      exact ⟨hran.1, ConnectionStatus.closings_of_course_usable hintact.course husable hstill⟩

/-- Over a reserved transport the phase is the same as before. -/
theorem Unharmed.phase_eq {mode : Mode} {kind : σ → Prop}
    (h : connection.Unharmed mode state next) (hreserved : connection.transport.Reserved kind)
    (hkind : kind state.stream) : next.phase = state.phase := by
  obtain ⟨calls, -, hran⟩ := h.ran
  rw [if_neg (Bool.eq_false_iff.mp (hreserved.meetAll_of_kind calls hkind).1)] at hran
  exact hran.1

theorem Intact.ended (hintact : Intact state next) (husable : state.Usable)
    (hclosed : next.phase = .closed) : Ended state next :=
  ⟨hclosed, ConnectionStatus.closings_of_course hintact.course husable hclosed⟩

/-! ## What is written -/

/-- Nothing was written in between. -/
def Unwritten (state next : ConnectionStatus σ) : Prop :=
  Entered (fun happening => happening.written? = none) state next

theorem lasting_unwritten (connection : Connection σ) : connection.Lasting Unwritten :=
  connection.lasting_entered (fun _ => rfl) rfl rfl

theorem admitsReceiving_unwritten (connection : Connection σ) (mode : Mode) (limit : Nat) :
    connection.AdmitsReceiving Unwritten mode limit where
  header := admits_entered rfl
  body _ _ := admits_entered rfl
  spare _ _ := Entered.note rfl

/-- Where a write was the last one, just its bytes were added to what was written. -/
theorem writes_of_unwritten {bytes : Bytes} {perform : σ → Answer Unit × σ}
    (h : Unwritten (state.called (.wrote bytes) perform) next) :
    next.writes = state.writes ++ [bytes] :=
  (Entered.entries_eq h).trans (ConnectionStatus.entries_note _ _ _)

theorem writes_tell (state : ConnectionStatus σ) (listener : Option Listener)
    (event : CommandEvent) : (state.tell listener event).writes = state.writes := by
  unfold ConnectionStatus.writes
  rw [ConnectionStatus.entries_tell fun _ => rfl]
  simp only [Happening.written?, Option.toList_none, ite_self, List.append_nil]

/-- **A conversation writes once**: the bytes of its command. -/
theorem writes_of_converse (connection : Connection σ) (mode : Mode) (dispatch : Dispatch)
    (bytes : Bytes) (limit : Nat) (decode : RawDocument → Except LinkError α)
    (hopen : state.phase ≠ .closed) :
    ((connection.converse mode dispatch bytes limit decode).after state).writes =
      state.writes ++ [bytes] := by
  have hlasting := connection.lasting_unwritten
  have hcall : Unwritten (state.called (.wrote bytes) (connection.transport.write mode bytes))
      ((connection.call mode .writing (.wrote bytes)
        (connection.transport.write mode bytes)).after state) :=
    hlasting.after_call (begun_of_not_closed hopen)
  exact writes_of_unwritten <| hlasting.after_converse (fun _ _ => .note (by rfl) _) dispatch decode
    hcall (connection.admitsReceiving_unwritten mode limit)

/-- So does a command that is put into bytes in a usable state. -/
theorem writes_of_outgoing {mode : Mode} {message : Command}
    {decode : RawDocument → Except LinkError α} {bytes : Bytes} (husable : state.Usable)
    (hbytes : connection.outgoing state message = .ok bytes) :
    ((connection.command mode message decode).after state).writes = state.writes ++ [bytes] := by
  let dispatch := connection.dispatch state message
  let told := state.tell dispatch.audience (dispatch.identity.started message)
  have hopen : told.phase ≠ .closed := by
    rw [phase_tell]
    exact husable.notClosed
  have hwrites : told.writes = state.writes := writes_tell state _ _
  unfold Action.after
  rw [command_of_outgoing husable hbytes, ← hwrites]
  exact connection.writes_of_converse mode dispatch bytes _ decode hopen

/-- Sending in a usable state writes the bytes once. -/
theorem writes_of_send {mode : Mode} {bytes : Bytes} {requestId : UInt32}
    (husable : state.Usable) :
    ((connection.send mode bytes requestId).after state).writes = state.writes ++ [bytes] := by
  have hlasting := connection.lasting_unwritten
  let logged := state.log .trace "sending message"
    [("request_id", toString requestId.toNat), ("length", toString bytes.length)]
  have hcall : Unwritten (logged.called (.wrote bytes) (connection.transport.write mode bytes))
      ((connection.call mode .writing (.wrote bytes)
        (connection.transport.write mode bytes)).after logged) :=
    hlasting.after_call (@begun_of_not_closed _ logged mode husable.notClosed)
  have hlogged : logged.writes = state.writes :=
    (ConnectionStatus.entries_note _ state _).trans (List.append_nil _)
  have hsent := hlasting.after_concluding hcall hlasting.refl fun _ => hlasting.shut
  unfold send
  rw [Action.after_bind_of_ok (connection.requireStream_of_usable husable), ← hlogged]
  exact writes_of_unwritten hsent

/-! ## What becomes of the connection -/

/-- **A command** that comes to nothing changes nothing. Any other one writes once, and then leaves
the connection unharmed or ends it. -/
theorem settled_of_command (connection : Connection σ) (mode : Mode) (message : Command)
    (decode : RawDocument → Except LinkError α) (state : ConnectionStatus σ) :
    match connection.command mode message decode state with
    | .ok _ next => ∃ bytes, connection.outgoing state message = .ok bytes ∧
        next.writes = state.writes ++ [bytes] ∧ connection.Unharmed mode state next
    | .error _ next =>
      ((¬ state.Usable ∨ ∃ fault, connection.outgoing state message = .error fault) ∧
        next = state) ∨
      ∃ bytes, connection.outgoing state message = .ok bytes ∧
        next.writes = state.writes ++ [bytes] ∧ Ended state next := by
  have hintact := connection.intact_of_command mode message decode state
  by_cases husable : state.Usable
  · cases hbytes : connection.outgoing state message with
    | error fault =>
      rw [command_of_outgoing_error husable hbytes]
      exact .inl ⟨.inr ⟨fault, rfl⟩, rfl⟩
    | ok bytes =>
      have hwrites := @writes_of_outgoing _ _ _ _ mode _ decode _ husable hbytes
      cases hresult : connection.command mode message decode state with
      | ok value next =>
        rw [Action.after_of_ok hresult] at hintact hwrites
        exact ⟨bytes, rfl, hwrites, hintact.unharmed husable (ran_of_command hresult)⟩
      | error fault next =>
        rw [Action.after_of_error hresult] at hintact hwrites
        -- once there are bytes, whatever fails is a failure of the conversation
        rw [command_of_outgoing husable hbytes] at hresult
        exact .inr ⟨bytes, rfl, hwrites, hintact.ended husable (error_of_failing hresult)⟩
  · obtain ⟨fault, hrefused⟩ := @command_of_not_usable _ _ connection _ mode message decode husable
    rw [hrefused]
    exact .inl ⟨.inl husable, rfl⟩

/-- **Sending** is refused, or writes once and leaves the connection unharmed or ends it. -/
theorem settled_of_send (connection : Connection σ) (mode : Mode) (bytes : Bytes)
    (requestId : UInt32) (state : ConnectionStatus σ) :
    match connection.send mode bytes requestId state with
    | .ok _ next => next.writes = state.writes ++ [bytes] ∧ connection.Unharmed mode state next
    | .error _ next => ¬ state.Usable ∧ next = state ∨
        state.Usable ∧ next.writes = state.writes ++ [bytes] ∧ Ended state next := by
  have hintact := connection.intact_of_send mode bytes requestId state
  by_cases husable : state.Usable
  · have hwrites := @writes_of_send _ connection _ mode bytes requestId husable
    cases hresult : connection.send mode bytes requestId state with
    | ok value next =>
      rw [Action.after_of_ok hresult] at hintact hwrites
      exact ⟨hwrites, hintact.unharmed husable (ran_of_send hresult)⟩
    | error fault next =>
      rw [Action.after_of_error hresult] at hintact hwrites
      unfold send at hresult
      rw [Action.bind_of_ok (connection.requireStream_of_usable husable)] at hresult
      exact .inr ⟨husable, hwrites, hintact.ended husable (error_of_closingOnFailure hresult)⟩
  · obtain ⟨fault, hrefused⟩ := connection.requireStream_of_not_usable husable
    unfold send
    rw [Action.bind_of_error hrefused]
    exact .inl ⟨husable, rfl⟩

/-- **Receiving** is refused, or leaves the connection unharmed or ends it. -/
theorem settled_of_receive (connection : Connection σ) (mode : Mode) (responseTo : UInt32)
    (state : ConnectionStatus σ) :
    match connection.receive mode responseTo state with
    | .ok _ next => connection.Unharmed mode state next
    | .error _ next => ¬ state.Usable ∧ next = state ∨ state.Usable ∧ Ended state next := by
  have hintact := connection.intact_of_receive mode responseTo state
  by_cases husable : state.Usable
  · cases hresult : connection.receive mode responseTo state with
    | ok response next =>
      rw [Action.after_of_ok hresult] at hintact
      exact hintact.unharmed husable (ran_of_receive hresult)
    | error fault next =>
      rw [Action.after_of_error hresult] at hintact
      unfold receive at hresult
      rw [Action.bind_of_ok (connection.requireStream_of_usable husable)] at hresult
      exact .inr ⟨husable, hintact.ended husable (error_of_closingOnFailure hresult)⟩
  · obtain ⟨fault, hrefused⟩ := connection.requireStream_of_not_usable husable
    unfold receive
    rw [Action.bind_of_error hrefused]
    exact .inl ⟨husable, rfl⟩

end Connection

/-- **All or closed.** In any state and either mode, a command fails with nothing changed where the
connection has no usable stream or the command cannot be put into bytes; otherwise it writes once,
and then leaves the connection unharmed if it succeeds, and closed, its stream closed once, if it
fails. So does sending, and receiving, wherever there is a usable stream. Unharmed is closed just
where one of the calls that were made of the stream closed the connection. -/
theorem all_or_closed (connection : Connection σ) (mode : Mode) (state : ConnectionStatus σ) :
    (∀ (α : Type) (message : Command) (decode : RawDocument → Except LinkError α),
      match connection.command mode message decode state with
      | .ok _ next => ∃ bytes, connection.outgoing state message = .ok bytes ∧
          next.writes = state.writes ++ [bytes] ∧ connection.Unharmed mode state next
      | .error _ next =>
        ((¬ state.Usable ∨ ∃ fault, connection.outgoing state message = .error fault) ∧
          next = state) ∨
        ∃ bytes, connection.outgoing state message = .ok bytes ∧
          next.writes = state.writes ++ [bytes] ∧ Ended state next) ∧
    (∀ bytes requestId,
      match connection.send mode bytes requestId state with
      | .ok _ next => next.writes = state.writes ++ [bytes] ∧ connection.Unharmed mode state next
      | .error _ next => ¬ state.Usable ∧ next = state ∨
          state.Usable ∧ next.writes = state.writes ++ [bytes] ∧ Ended state next) ∧
    ∀ responseTo,
      match connection.receive mode responseTo state with
      | .ok _ next => connection.Unharmed mode state next
      | .error _ next => ¬ state.Usable ∧ next = state ∨ state.Usable ∧ Ended state next :=
  ⟨fun _ message decode => connection.settled_of_command mode message decode state,
    fun bytes requestId => connection.settled_of_send mode bytes requestId state,
    fun responseTo => connection.settled_of_receive mode responseTo state⟩

/-- A connection to a scripted peer, with a prepared profile. -/
def ScriptedPeer.connection : Connection ScriptedPeer where
  server := .ofAddress ⟨"mock", 27017⟩
  transport := ScriptedPeer.transport true
  packing := .plain
  compressors := ⟨[]⟩
  initializer := .prepared false .ok
  listener := none

/-- A peer whose first write fails. -/
def ScriptedPeer.refusing : ScriptedPeer :=
  (follow (answer (.done ())) (answer (.done ()))).pushTurns [.fail (.plain .brokenPipe "gone")]

/-- A ping whose write fails leaves the connection closed, its stream closed once. -/
theorem all_or_closed_refusing :
    ∃ state error next, (ScriptedPeer.connection.run [.establish .blocking]
        (ScriptedPeer.connection.start .refusing .initial)).1 = state ∧
      ScriptedPeer.connection.command .awaited (.ofCommand 1 "app" [("ping", .int32 1)])
        RawDocument.toDocument state = .error error next ∧
      state.closings = 0 ∧ next.phase = .closed ∧ next.closings = 1 := by
  obtain ⟨hcommand, -⟩ := all_or_closed ScriptedPeer.connection .awaited
    (ScriptedPeer.connection.run [.establish .blocking]
      (ScriptedPeer.connection.start .refusing .initial)).1
  have hping := hcommand Document (.ofCommand 1 "app" [("ping", .int32 1)]) RawDocument.toDocument
  rcases hping with ⟨hnone | ⟨_, hnone⟩, -⟩ | ⟨_, -, -, hended⟩
  · exact absurd ⟨by decide, rfl⟩ hnone
  · cases hnone
  · exact ⟨_, _, _, rfl, rfl, rfl, hended.phase, hended.closings⟩

/-- A peer that takes one write and closes the connection over it. -/
def ScriptedPeer.closing : ScriptedPeer :=
  (follow (answer (.done ())) (answer (.done ()))).pushTurns [.accept [] true]

/-- **A send can succeed and find the connection closed**: the transport closed it in the midst of
the write, and then gave its answer. -/
theorem sent_and_closed :
    ∃ state next, (ScriptedPeer.connection.run [.establish .blocking]
        (ScriptedPeer.connection.start .closing .initial)).1 = state ∧
      state.Usable ∧ state.phase = .opened ∧
      ScriptedPeer.connection.send .blocking [1, 2, 3] 7 state = .ok () next ∧
      next.phase = .closed :=
  ⟨_, _, rfl, ⟨by decide, rfl⟩, rfl, rfl, rfl⟩

end CommandLink
