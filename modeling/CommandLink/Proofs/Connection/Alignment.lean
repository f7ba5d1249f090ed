import Mathlib.Data.List.Forall2
import CommandLink.Connection.Ready
import CommandLink.Proofs.Connection.Session

/-!
# Sessions stay aligned with messages

Whatever a peer sends and however its transport fails, as long as a connection is not closed the
bytes that it has consumed are a sequence of whole messages, one for every receipt
(`session_aligned`). A command that succeeds has decoded the last of them, which answered it.

A transport is only asked to be honest about what it consumes: a `Tape` keeps a record of the bytes
that were taken from it, which reading alone extends, by no more than was asked for.
-/

namespace CommandLink

open Connection

variable {σ α : Type}

/-- A transport whose reads take bytes off a tape. The record of what was taken grows by at most
what a read asks for, also when the read fails; what a read gives is what it took. The tape is
written by a peer that may see all that went before. -/
structure Tape (transport : Transport σ) where
  consumed : σ → Bytes
  create : ∀ address stream, consumed (transport.create address stream).2 = consumed stream
  connect : ∀ mode stream, consumed (transport.connect mode stream).2 = consumed stream
  write : ∀ mode bytes stream, consumed (transport.write mode bytes stream).2 = consumed stream
  close : ∀ stream, consumed (transport.close stream) = consumed stream
  read : ∀ mode count stream, ∃ taken : Bytes, taken.length ≤ count ∧
    consumed (transport.read mode count stream).2 = consumed stream ++ taken ∧
    ∀ bytes, (transport.read mode count stream).1.outcome = .done bytes → bytes = taken

/-- A message that answers a command: it answers the command's id, and its document decodes to the
value. -/
def Connection.Answers (connection : Connection σ) (limit : Nat) (message : Command)
    (decode : RawDocument → Except LinkError α) (value : α) (frame : Bytes) : Prop :=
  (Header.fields frame).responseTo = message.requestId ∧ ∃ inbound body reply,
    connection.reading limit frame = .ok (inbound, body) ∧
    Reply.parse inbound body message.requestId = .ok reply ∧ decode reply.document = .ok value

/-- A reply that was found answers the request that it was looked up for. -/
theorem Reply.responseTo_of_parse {header : InboundHeader} {body : Bytes} {requestId : UInt32}
    {reply : Reply} (h : Reply.parse header body requestId = .ok reply) :
    header.responseTo = requestId := by
  unfold Reply.parse at h
  split at h
  · cases h
  · rename_i hsame
    exact Decidable.not_not.mp hsame

namespace Tape

variable {connection : Connection σ} (tape : Tape connection.transport)
  {state next : ConnectionStatus σ}

/-- Nothing was taken from the tape. -/
def Untouched (state next : ConnectionStatus σ) : Prop :=
  tape.consumed next.stream = tape.consumed state.stream

theorem untouched_shutStream (state : ConnectionStatus σ) :
    tape.Untouched state (connection.shutStream state) := by
  unfold shutStream
  split
  · exact tape.close state.stream
  · rfl

theorem untouched_shut (state : ConnectionStatus σ) :
    tape.Untouched state (connection.shut state) := by
  obtain ⟨stream, journal, hshut, hsame | hclose⟩ := connection.shut_eq state
  · rw [hshut, hsame]
    rfl
  · rw [hshut, hclose]
    exact tape.close state.stream

/-- Between calls nothing is taken. -/
theorem lasting : connection.Lasting tape.Untouched where
  refl _ := rfl
  trans hfirst hsecond := hsecond.trans hfirst
  logged _ _ := rfl
  waited _ := rfl
  ledger _ _ := rfl
  shut := tape.untouched_shut

/-! ## Receiving -/

/-- What a read puts into a buffer was taken from the tape. -/
theorem ok_of_readBuffer {mode : Mode} {stage : Stage} {count : Nat} {buffer : Buffer}
    (h : connection.readBuffer mode stage count state = .ok buffer next) :
    buffer.bytes.length ≤ count ∧
      tape.consumed next.stream = tape.consumed state.stream ++ buffer.bytes := by
  obtain ⟨bytes, mid, hcall, hlend⟩ := Action.ok_of_bind h
  obtain ⟨hdone, rfl⟩ := ok_of_call hcall
  cases hlend
  obtain ⟨taken, hle, hconsumed, hgiven⟩ := tape.read mode count state.stream
  obtain rfl := hgiven bytes hdone
  refine ⟨hle, Eq.trans ?_ hconsumed⟩
  unfold met
  dsimp only
  split
  · exact tape.untouched_shut _
  · rfl

/-- **A message that is received** was taken from the tape as a whole and nothing besides, and is
what the bytes mean. -/
theorem ok_of_receiveWithin {mode : Mode} {limit : Nat} {response : Response}
    (h : connection.receiveWithin mode limit state = .ok response next) :
    ∃ frame, IsMessage limit frame ∧
      tape.consumed next.stream = tape.consumed state.stream ++ frame ∧
      connection.reading limit frame = .ok (response.header, response.body.bytes) := by
  obtain ⟨front, fronted, header, body, bodied, assembled, hfront, hdecode, hbody, hassemble, rfl⟩ :=
    Connection.ok_of_receiveWithin h
  obtain ⟨hsize, hcontent, _, _, rfl⟩ := ok_of_assemble hassemble
  obtain ⟨hfrontSize, hfrontTaken⟩ := tape.ok_of_readBuffer hfront
  obtain ⟨-, hbodyTaken⟩ := tape.ok_of_readBuffer hbody
  have hencode : header.encode = front.bytes := by
    rw [Header.encode_of_decode hdecode, List.take_of_length_le hfrontSize]
  obtain ⟨-, -, hlow, hhigh⟩ := Header.decode_eq_ok_iff.mp hdecode
  have hcount : header.messageLength.toNat = Header.size + body.bytes.length := by
    rw [hsize, Header.bodySize, Nat.add_sub_cancel' hlow]
  refine ⟨header.encode ++ body.bytes, isMessage_encode_append hcount (hcount ▸ hhigh), ?_, ?_⟩
  · calc tape.consumed bodied.stream
        = tape.consumed fronted.stream ++ body.bytes := hbodyTaken
      _ = tape.consumed state.stream ++ (header.encode ++ body.bytes) := by
        rw [hfrontTaken, hencode, List.append_assoc]
        rfl
  · rw [connection.reading_encode_append, hcontent]

/-! ## Operations -/

/-- **A command that succeeds** has taken one message from the tape, and it is the answer. -/
theorem ok_of_command {mode : Mode} {message : Command}
    {decode : RawDocument → Except LinkError α} {value : α}
    (h : connection.command mode message decode state = .ok value next) :
    ∃ frame, IsMessage state.profile.limits.messageSize frame ∧
      tape.consumed next.stream = tape.consumed state.stream ++ frame ∧
      connection.Answers state.profile.limits.messageSize message decode value frame := by
  obtain ⟨-, bytes, -, hconverse⟩ := Connection.ok_of_command h
  obtain ⟨written, response, received, completed, hwrite, hreceive, hcomplete, hnext⟩ :=
    ok_of_converse hconverse
  obtain ⟨frame, hframe, htaken, hreading⟩ := tape.ok_of_receiveWithin hreceive
  obtain ⟨reply, hparse, -, hdecode, hcompleted⟩ := ok_of_complete hcomplete
  refine ⟨frame, hframe, ?_, ?_, response.header, response.body.bytes, reply, hreading, hparse,
    hdecode⟩
  · have htold : tape.Untouched state written :=
      tape.lasting.trans (tape.lasting.tell (fun _ _ => rfl) state _ _)
        ((tape.lasting.keeps_call fun before => tape.write mode bytes before.stream).of_ok hwrite)
    have hended : tape.Untouched received next := by
      rw [hnext, hcompleted]
      exact tape.lasting.trans (tape.lasting.tell (fun _ _ => rfl) received _ _)
        (tape.lasting.drop _ _)
    rw [hended, htaken, htold]
  · rw [← responseTo_of_content hreading]
    exact Reply.responseTo_of_parse hparse

/-- Receiving takes one message from the tape when it succeeds. -/
theorem ok_of_receive {mode : Mode} {responseTo : UInt32} {response : Response}
    (h : connection.receive mode responseTo state = .ok response next) :
    ∃ frame, IsMessage state.profile.limits.messageSize frame ∧
      tape.consumed next.stream = tape.consumed state.stream ++ frame := by
  obtain ⟨hreceive, -⟩ := Connection.ok_of_receive h
  obtain ⟨frame, hframe, htaken, -⟩ := tape.ok_of_receiveWithin hreceive
  exact ⟨frame, hframe, htaken⟩

/-- Nothing was taken from the tape, and the profile is the same. -/
def Unmoved (state next : ConnectionStatus σ) : Prop :=
  tape.Untouched state next ∧ next.profile = state.profile

theorem lasting_unmoved : connection.Lasting tape.Unmoved :=
  tape.lasting.and connection.lasting_profile

/-- Until a connection is connected nothing is taken from the tape. -/
theorem unmoved_of_connect {mode : Mode} {made connected : ConnectionStatus σ}
    (hbegin : connection.begin state = .ok () made)
    (hconnect : connection.call mode .opening .connected (connection.transport.connect mode) made =
      .ok () connected) : tape.Unmoved state connected := by
  have hmade : tape.Unmoved state made :=
    (tape.lasting_unmoved.keeps_begin (fun _ => ⟨rfl, rfl⟩) (fun _ => ⟨rfl, rfl⟩)
      (fun before => ⟨tape.untouched_shutStream before, connection.profile_shutStream before⟩)
      fun before => ⟨tape.create _ before.stream, rfl⟩).of_ok hbegin
  have hconnected : tape.Unmoved made connected :=
    (tape.lasting_unmoved.keeps_call fun before =>
      ⟨tape.connect mode before.stream, rfl⟩).of_ok hconnect
  exact tape.lasting_unmoved.trans hmade hconnected

/-- Describing the server takes one message from the tape where the server is asked, and none where
the profile was prepared. -/
theorem ok_of_describe {mode : Mode} {profile : ConnectionProfile}
    (h : connection.describe mode state = .ok profile next) :
    ∃ frames, List.Forall₂ IsMessage
        (if (Operation.establish mode).receives connection then
          [state.profile.limits.messageSize] else []) frames ∧
      tape.consumed next.stream = tape.consumed state.stream ++ frames.flatten := by
  unfold describe at h
  unfold Operation.receives
  cases hinitializer : connection.initializer with
  | handshake handshake =>
    rw [hinitializer] at h
    obtain ⟨requestId, numbered, hnumber, h⟩ := Action.ok_of_bind h
    obtain ⟨reply, replied, hcommand, h⟩ := Action.ok_of_bind h
    cases h
    obtain ⟨huntouched, hprofile⟩ : tape.Unmoved state numbered :=
      (tape.lasting_unmoved.keeps_takeRequestId fun _ _ => ⟨rfl, rfl⟩).of_ok hnumber
    obtain ⟨frame, hframe, htaken, -⟩ := tape.ok_of_command hcommand
    rw [hprofile] at hframe
    refine ⟨[frame], .cons hframe .nil, ?_⟩
    rw [List.flatten_singleton, htaken, huntouched]
  | prepared closes describe =>
    rw [hinitializer] at h
    refine ⟨[], .nil, ?_⟩
    rw [List.flatten_nil, List.append_nil]
    exact (tape.lasting.keeps_prepare closes describe).of_ok h

/-- **An operation that succeeds** has taken one message from the tape if it receives one, and
nothing else. -/
theorem ok_of_perform {operation : Operation} {result : operation.Result}
    (h : operation.perform connection state = .ok result next) :
    ∃ frames, List.Forall₂ IsMessage
        (if operation.receives connection then [state.profile.limits.messageSize] else []) frames ∧
      tape.consumed next.stream = tape.consumed state.stream ++ frames.flatten := by
  have hnone : tape.Untouched state next → ∃ frames, List.Forall₂ IsMessage [] frames ∧
      tape.consumed next.stream = tape.consumed state.stream ++ frames.flatten := by
    intro huntouched
    exact ⟨[], .nil, by rw [List.flatten_nil, List.append_nil, huntouched]⟩
  have hone : ∀ {frame}, IsMessage state.profile.limits.messageSize frame →
      tape.consumed next.stream = tape.consumed state.stream ++ frame →
      ∃ frames, List.Forall₂ IsMessage [state.profile.limits.messageSize] frames ∧
        tape.consumed next.stream = tape.consumed state.stream ++ frames.flatten := by
    intro frame hframe htaken
    exact ⟨[frame], .cons hframe .nil, by rw [List.flatten_singleton, htaken]⟩
  cases operation with
  | establish mode =>
    obtain ⟨made, connected, profile, described, adopted, hbegin, hconnect, hdescribe, hadopt,
      rfl⟩ := ok_of_establish h
    obtain ⟨huntouched, hprofile⟩ := tape.unmoved_of_connect hbegin hconnect
    obtain ⟨frames, hframes, htaken⟩ := tape.ok_of_describe hdescribe
    have hadopted : tape.Untouched described adopted :=
      (tape.lasting.keeps_adopt profile (fun _ _ => rfl) fun _ => rfl).of_ok hadopt
    rw [hprofile] at hframes
    exact ⟨frames, hframes, hadopted.trans (by rw [htaken, huntouched])⟩
  | command mode message decode =>
    obtain ⟨frame, hframe, htaken, -⟩ := tape.ok_of_command h
    exact hone hframe htaken
  | send mode bytes requestId =>
    exact hnone ((tape.lasting.keeps_send requestId fun before =>
      tape.write mode bytes before.stream).of_ok h)
  | receive mode responseTo =>
    obtain ⟨frame, hframe, htaken⟩ := tape.ok_of_receive h
    exact hone hframe htaken
  | borrow size => exact hnone ((tape.lasting.keeps_borrowBuffer fun _ => rfl).of_ok h)
  | drop buffer =>
    cases h
    exact hnone (tape.lasting.drop state buffer)
  | close => exact hnone ((Action.keeps_modify tape.untouched_shut).of_ok h)

/-! ## Sessions -/

/-- **One operation keeps a session aligned**: if it does not leave the connection closed, it has
taken whole messages from the tape, one for every receipt. -/
theorem aligned_of_step (operation : Operation) (state : ConnectionStatus σ) :
    ∃ frames, List.Forall₂ IsMessage (operation.step connection state).2 frames ∧
      ((operation.step connection state).1.phase ≠ .closed →
        tape.consumed (operation.step connection state).1.stream =
          tape.consumed state.stream ++ frames.flatten) := by
  unfold Operation.step
  cases hresult : operation.perform connection state with
  | ok result next =>
    obtain ⟨frames, hframes, htaken⟩ := tape.ok_of_perform hresult
    exact ⟨frames, hframes, fun _ => htaken⟩
  | error fault next =>
    refine ⟨[], .nil, fun hphase => ?_⟩
    rcases error_of_perform hresult with rfl | hclosed
    · exact (List.append_nil _).symm
    · exact absurd hclosed hphase

/-- A session keeps what each of its operations keeps. The induction is on the operations; a
connection that is not closed in the end was not closed after the first of them. -/
theorem aligned_of_run (operations : List Operation) (state : ConnectionStatus σ) :
    ∃ frames, List.Forall₂ IsMessage (connection.run operations state).2 frames ∧
      ((connection.run operations state).1.phase ≠ .closed →
        tape.consumed (connection.run operations state).1.stream =
          tape.consumed state.stream ++ frames.flatten) := by
  induction operations generalizing state with
  | nil => exact ⟨[], .nil, fun _ => (List.append_nil _).symm⟩
  | cons operation rest ih =>
    obtain ⟨first, hfirst, hstep⟩ := tape.aligned_of_step operation state
    obtain ⟨others, hothers, hrun⟩ := ih (operation.step connection state).1
    refine ⟨first ++ others, List.rel_append hfirst hothers, fun hphase => ?_⟩
    have hbefore : (operation.step connection state).1.phase ≠ .closed :=
      fun hclosed => hphase (closed_of_run rest hclosed)
    calc tape.consumed (connection.run (operation :: rest) state).1.stream
        = tape.consumed (operation.step connection state).1.stream ++ others.flatten :=
          hrun hphase
      _ = tape.consumed state.stream ++ (first ++ others).flatten := by
          rw [hstep hbefore, List.flatten_append, List.append_assoc]

end Tape

/-- What is read from a ready peer is on a tape. -/
def ReadyPeer.tape : Tape ReadyPeer.transport where
  consumed := ReadyPeer.taken
  create _ _ := rfl
  connect _ _ := rfl
  write _ _ _ := rfl
  close _ := rfl
  read _ count peer := by
    refine ⟨peer.ready.take count, List.length_take_le _ _, rfl, fun bytes hdone => ?_⟩
    simp only [transport, read] at hdone
    split at hdone
    · exact (Outcome.done.inj hdone).symm
    · cases hdone

/-- **A session stays aligned.** Whatever its peer sends and however its transport fails: while a
connection is not closed, the bytes that it has consumed are whole messages, one for each receipt
and within the limit of that receipt. A command that succeeds then consumes one more of them, which
answers the command's id and whose document its value was decoded from. -/
theorem session_aligned {connection : Connection σ} (tape : Tape connection.transport)
    {stream : σ} {counters : Counters} {operations : List Operation}
    {final : ConnectionStatus σ} {receipts : List Nat}
    (hrun : connection.run operations (connection.start stream counters) = (final, receipts))
    (hopen : final.phase ≠ .closed) :
    ∃ frames, List.Forall₂ IsMessage receipts frames ∧
      tape.consumed final.stream = tape.consumed stream ++ frames.flatten ∧
      ∀ {α : Type} (mode : Mode) (message : Command) (decode : RawDocument → Except LinkError α)
        (value : α) (next : ConnectionStatus σ),
        connection.command mode message decode final = .ok value next →
        ∃ last, IsMessage final.profile.limits.messageSize last ∧
          tape.consumed next.stream = tape.consumed stream ++ (frames ++ [last]).flatten ∧
          connection.Answers final.profile.limits.messageSize message decode value last := by
  obtain ⟨frames, hframes, haligned⟩ :=
    tape.aligned_of_run operations (connection.start stream counters)
  rw [hrun] at hframes haligned
  have htaken := haligned hopen
  refine ⟨frames, hframes, htaken, ?_⟩
  intro α mode message decode value next hcommand
  obtain ⟨last, hlast, hnext, hanswers⟩ := tape.ok_of_command hcommand
  refine ⟨last, hlast, ?_, hanswers⟩
  rw [hnext, htaken, List.flatten_append, List.flatten_singleton, List.append_assoc]
  rfl

/-- A session with a peer that has two messages ready: an empty one, and the answer to a ping. -/
theorem session_aligned_ping :
    ∃ final receipts, (ReadyPeer.connection .empty).run [.establish .awaited, .receive .blocking 0]
        ((ReadyPeer.connection .empty).start
          (.having ((⟨16, 9, 0, 1⟩ : Header).encode ++ ((⟨34, 10, 1, 2013⟩ : Header).encode ++
            [0, 0, 0, 0, 0, 13, 0, 0, 0, 0x10, 0x6F, 0x6B, 0, 1, 0, 0, 0, 0]))) .initial) =
        (final, receipts) ∧ final.phase ≠ .closed ∧
      ∃ frames, List.Forall₂ IsMessage receipts frames ∧ final.stream.taken = frames.flatten ∧
        ∃ value next last, (ReadyPeer.connection .empty).command .blocking
            (.ofCommand 1 "app" [("ping", .int32 1)]) RawDocument.toDocument final =
            .ok value next ∧
          IsMessage 48000000 last ∧ next.stream.taken = (frames ++ [last]).flatten := by
  refine ⟨_, _, rfl, by decide, ?_⟩
  obtain ⟨frames, hframes, htaken, hcommand⟩ :=
    @session_aligned _ (ReadyPeer.connection .empty) ReadyPeer.tape
      (.having ((⟨16, 9, 0, 1⟩ : Header).encode ++ ((⟨34, 10, 1, 2013⟩ : Header).encode ++
        [0, 0, 0, 0, 0, 13, 0, 0, 0, 0x10, 0x6F, 0x6B, 0, 1, 0, 0, 0, 0]))) .initial
      [.establish .awaited, .receive .blocking 0] _ _ rfl (by decide)
  obtain ⟨last, hlast, hnext, -⟩ := hcommand .blocking (.ofCommand 1 "app" [("ping", .int32 1)])
    RawDocument.toDocument _ _ rfl
  exact ⟨frames, hframes, htaken, _, _, last, rfl, hlast, hnext⟩

end CommandLink
