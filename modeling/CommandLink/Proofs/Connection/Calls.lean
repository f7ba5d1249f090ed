import CommandLink.Proofs.Connection.Dispatch
import CommandLink.Proofs.Connection.Journal

/-!
# The calls of an operation

What an operation asked of its stream can be read out of the journal: the writes and reads, in their
order. Made again over the stream that the operation found, these calls tell whether one of them
closed the connection (`Transport.meetAll`). An operation that succeeds does nothing else to its
phase and its stream: it ran through its calls (`Ran`), and is closed afterwards just if one of them
closed it. Runs are put together call by call (`Ran.trans`).
-/

namespace CommandLink

variable {σ α : Type}

/-- A call over a stream. -/
inductive StreamCall where
  | write (bytes : Bytes)
  | read (count : Nat)

/-- The call that an entry of the journal tells of. -/
def Happening.call? : Happening → Option StreamCall
  | wrote bytes => some (.write bytes)
  | asked count => some (.read count)
  | _ => none

/-- All calls over the stream. -/
def ConnectionStatus.calls (state : ConnectionStatus σ) : List StreamCall :=
  state.entries Happening.call?

namespace Transport

variable {transport : Transport σ} {mode : Mode}

/-- Whether a call closes the connection, and what it makes of the stream. -/
def meet (transport : Transport σ) (mode : Mode) (stream : σ) : StreamCall → Bool × σ
  | .write bytes =>
    ((transport.write mode bytes stream).1.closes, (transport.write mode bytes stream).2)
  | .read count =>
    ((transport.read mode count stream).1.closes, (transport.read mode count stream).2)

/-- Whether one of the calls closes the connection, each made over the stream as the one before has
left it, and what they make of the stream until then. -/
def meetAll (transport : Transport σ) (mode : Mode) : σ → List StreamCall → Bool × σ
  | stream, [] => (false, stream)
  | stream, call :: rest =>
    let met := transport.meet mode stream call
    if met.1 then met else transport.meetAll mode met.2 rest

/-- After a call that closes the connection no other counts. -/
theorem meetAll_append_of_closes {stream : σ} {first : List StreamCall}
    (h : (transport.meetAll mode stream first).1 = true) (second : List StreamCall) :
    transport.meetAll mode stream (first ++ second) = transport.meetAll mode stream first := by
  induction first generalizing stream with
  | nil => cases h
  | cons call rest ih =>
    rw [List.cons_append, meetAll, meetAll]
    by_cases hmet : (transport.meet mode stream call).1 = true
    · rw [if_pos hmet, if_pos hmet]
    · rw [meetAll, if_neg hmet] at h
      rw [if_neg hmet, if_neg hmet, ih h]

/-- After calls that do not, others are made over the stream that they have left. -/
theorem meetAll_append_of_not_closes {stream : σ} {first : List StreamCall}
    (h : (transport.meetAll mode stream first).1 = false) (second : List StreamCall) :
    transport.meetAll mode stream (first ++ second) =
      transport.meetAll mode (transport.meetAll mode stream first).2 second := by
  induction first generalizing stream with
  | nil => rfl
  | cons call rest ih =>
    by_cases hmet : (transport.meet mode stream call).1 = true
    · rw [meetAll, if_pos hmet, hmet] at h
      cases h
    · rw [meetAll, if_neg hmet] at h
      rw [List.cons_append, meetAll, meetAll, if_neg hmet, if_neg hmet, ih h]

end Transport

namespace Connection

/-- Between two states an operation ran through calls of its stream. The connection is closed if one
of them closed it; otherwise its phase is the same as before, and the stream is as the calls have
left it. -/
def Ran (connection : Connection σ) (mode : Mode) (state next : ConnectionStatus σ) : Prop :=
  ∃ calls, next.calls = state.calls ++ calls ∧
    if (connection.transport.meetAll mode state.stream calls).1 = true then next.phase = .closed
    else next.phase = state.phase ∧
      next.stream = (connection.transport.meetAll mode state.stream calls).2

namespace Ran

variable {connection : Connection σ} {mode : Mode} {state mid next : ConnectionStatus σ}

/-- **Runs one after the other are a run.** -/
theorem trans (hfirst : connection.Ran mode state mid) (hsecond : connection.Ran mode mid next) :
    connection.Ran mode state next := by
  obtain ⟨first, hmid, hfirst⟩ := hfirst
  obtain ⟨second, hnext, hsecond⟩ := hsecond
  refine ⟨first ++ second, by rw [hnext, hmid, List.append_assoc], ?_⟩
  cases hcloses : (connection.transport.meetAll mode state.stream first).1 with
  | true =>
    rw [if_pos hcloses] at hfirst
    rw [Transport.meetAll_append_of_closes hcloses, if_pos hcloses]
    split at hsecond
    · exact hsecond
    · exact hsecond.1.trans hfirst
  | false =>
    rw [if_neg (by rw [hcloses]; exact Bool.false_ne_true)] at hfirst
    rw [Transport.meetAll_append_of_not_closes hcloses]
    rwa [hfirst.2, hfirst.1] at hsecond

end Ran

/-! ## What asks nothing of the stream -/

/-- Nothing was asked of the stream in between, and only the journal and the buffers differ. -/
def Quiet (state next : ConnectionStatus σ) : Prop :=
  state.Alike next ∧ next.calls = state.calls

namespace Quiet

variable {connection : Connection σ} {mode : Mode} {state mid next : ConnectionStatus σ}

theorem note {happening : Happening} (h : happening.call? = none) (state : ConnectionStatus σ) :
    Quiet state (state.note happening) := by
  refine ⟨.note state happening, (ConnectionStatus.entries_note _ _ _).trans ?_⟩
  rw [h]
  exact List.append_nil _

theorem drop (state : ConnectionStatus σ) (buffer : Buffer) : Quiet state (state.drop buffer) :=
  ⟨.drop state buffer, rfl⟩

theorem tell (state : ConnectionStatus σ) (listener : Option Listener) (event : CommandEvent) :
    Quiet state (state.tell listener event) := by
  refine ⟨alike_tell state listener event, ?_⟩
  unfold ConnectionStatus.calls
  rw [ConnectionStatus.entries_tell fun _ => rfl]
  simp only [Happening.call?, Option.toList_none, ite_self, List.append_nil]

/-- A run after it runs through the same calls. -/
theorem ran (hquiet : Quiet state mid) (hran : connection.Ran mode mid next) :
    connection.Ran mode state next := by
  obtain ⟨⟨_, _, rfl⟩, hcalls⟩ := hquiet
  obtain ⟨calls, hnext, hran⟩ := hran
  exact ⟨calls, by rw [hnext, hcalls], hran⟩

/-- So does a run before it. -/
theorem after (hquiet : Quiet mid next) (hran : connection.Ran mode state mid) :
    connection.Ran mode state next := by
  obtain ⟨⟨_, _, rfl⟩, hcalls⟩ := hquiet
  obtain ⟨calls, hmid, hran⟩ := hran
  exact ⟨calls, hcalls.trans hmid, hran⟩

end Quiet

/-- Nothing was entered that tells of a call. -/
theorem lasting_uncalled (connection : Connection σ) :
    connection.Lasting (Entered fun happening => happening.call? = none) :=
  connection.lasting_entered (fun _ => rfl) rfl rfl

variable {connection : Connection σ} {mode : Mode} {state next : ConnectionStatus σ}

/-- What could be assembled was assembled without a call. -/
theorem quiet_of_assemble {header : Header} {body : Buffer} {limit : Nat} {response : Response}
    (h : connection.assemble header body limit state = .ok response next) : Quiet state next := by
  obtain ⟨-, -, halike⟩ := ok_of_assemble h
  have hspare (size : Nat) (_ : size + Header.size ≤ limit) (state : ConnectionStatus σ) :
      Entered (fun happening => happening.call? = none) state (state.note (.spared size)) :=
    .note (by rfl) state
  have hentered := connection.lasting_uncalled.keeps_assemble header body hspare state
  rw [Action.after_of_ok h] at hentered
  exact ⟨halike, hentered.entries_eq⟩

/-! ## What operations run through -/

/-- A call that succeeds is run through. -/
theorem ran_of_call {stage : Stage} {happening : Happening} {perform : σ → Answer α × σ}
    {value : α} {call : StreamCall}
    (h : connection.call mode stage happening perform state = .ok value next)
    (hcall : happening.call? = some call)
    (hmeet : connection.transport.meet mode state.stream call =
      ((perform state.stream).1.closes, (perform state.stream).2)) :
    connection.Ran mode state next := by
  obtain ⟨-, rfl⟩ := ok_of_call h
  let called := { state with stream := (perform state.stream).2 }.note happening
  have hcalls : called.calls = state.calls ++ [call] := by
    refine (ConnectionStatus.entries_note _ _ _).trans ?_
    rw [hcall]
    rfl
  refine ⟨[call], ?_, ?_⟩
  · unfold met
    split
    · exact (Entered.entries_eq (connection.lasting_uncalled.shut called)).trans hcalls
    · exact hcalls
  · rw [Transport.meetAll, hmeet]
    unfold met
    cases (perform state.stream).1.closes with
    | true => exact connection.phase_shut _
    | false => exact ⟨rfl, rfl⟩

theorem ran_of_readBuffer {stage : Stage} {count : Nat} {buffer : Buffer}
    (h : connection.readBuffer mode stage count state = .ok buffer next) :
    connection.Ran mode state next := by
  obtain ⟨bytes, mid, hcall, hlend⟩ := Action.ok_of_bind h
  have hmid : connection.Ran mode state mid := ran_of_call hcall rfl rfl
  cases hlend
  exact hmid

/-- **Receiving** that succeeds runs through its reads. -/
theorem ran_of_receiveWithin {limit : Nat} {response : Response}
    (h : connection.receiveWithin mode limit state = .ok response next) :
    connection.Ran mode state next := by
  obtain ⟨front, fronted, header, body, bodied, assembled, hfront, -, hbody, hassemble, rfl⟩ :=
    ok_of_receiveWithin h
  have hread := (ran_of_readBuffer hfront).trans (ran_of_readBuffer hbody)
  have hassembled := (quiet_of_assemble hassemble).after hread
  exact (Quiet.note (by rfl) state).ran ((Quiet.drop assembled front).after hassembled)

theorem ran_of_receive {responseTo : UInt32} {response : Response}
    (h : connection.receive mode responseTo state = .ok response next) :
    connection.Ran mode state next :=
  ran_of_receiveWithin (ok_of_receive h).1

/-- **Sending** that succeeds runs through its write. -/
theorem ran_of_send {bytes : Bytes} {requestId : UInt32} {result : Unit}
    (h : connection.send mode bytes requestId state = .ok result next) :
    connection.Ran mode state next := by
  obtain ⟨-, h⟩ := ok_of_requireStream_bind h
  rw [Action.modify_bind] at h
  exact (Quiet.note (by rfl) state).ran (ran_of_call (ok_of_closingOnFailure h) rfl rfl)

/-- **A command** that succeeds runs through its write and its reads. -/
theorem ran_of_command {message : Command} {decode : RawDocument → Except LinkError α} {value : α}
    (h : connection.command mode message decode state = .ok value next) :
    connection.Ran mode state next := by
  obtain ⟨-, bytes, -, hconverse⟩ := ok_of_command h
  obtain ⟨written, response, received, completed, hwrite, hreceive, hcomplete, rfl⟩ :=
    ok_of_converse hconverse
  obtain ⟨reply, -, -, -, rfl⟩ := ok_of_complete hcomplete
  have hcalled := (ran_of_call hwrite rfl rfl).trans (ran_of_receiveWithin hreceive)
  exact (Quiet.tell state _ _).ran
    ((Quiet.drop _ response.body).after ((Quiet.tell received _ _).after hcalled))

end Connection

end CommandLink
