import CommandLink.Connection.Parts
import CommandLink.Proofs.Connection.Publication
import CommandLink.Proofs.Connection.Stages
import CommandLink.Proofs.Connection.Twins

/-!
# A command is its parts

Where nobody listens, a command does what its parts do: it ends alike, and the states left behind
differ in their logs alone (`command_by_parts`). The one exception is a stream that closes the
connection over the write and takes it all the same. Receiving by hand is then refused, while a
command goes on with its stream (`parted_and_closed`).
-/

namespace CommandLink

open Connection

variable {σ α β : Type}

/-- A computation of two steps is done step by step. -/
theorem Action.ofResult_bind (result : Except LinkError α) (rest : α → Except LinkError β) :
    (ofResult (result >>= rest) : Action σ β) = ofResult result >>= fun a => ofResult (rest a) := by
  cases result with
  | ok value => rfl
  | error fault => rfl

namespace Connection

variable {connection : Connection σ} {state next : ConnectionStatus σ}

/-! ## The parts of a command -/

/-- Without anyone to hear of it, completing a command is judging the answer. -/
theorem complete_of_unheard {dispatch : Dispatch} (hunheard : dispatch.audience = none)
    (response : Response) (decode : RawDocument → Except LinkError α) :
    connection.complete dispatch response decode =
      Action.ofResult (connection.judge dispatch.identity.requestId response decode) := by
  unfold complete judge
  rw [Action.ofResult_bind]
  refine bind_congr fun reply => ?_
  rw [Action.ofResult_bind]
  refine bind_congr fun success => ?_
  cases success with
  | true =>
    rw [hunheard]
    rfl
  | false =>
    rw [if_neg Bool.false_ne_true, if_neg Bool.false_ne_true, Action.ofResult_bind]
    rfl

/-- An answer that is checked and then judged is judged. -/
theorem judge_of_checked (connection : Connection σ) (requestId : UInt32) (response : Response)
    (decode : RawDocument → Except LinkError α) :
    (do
      let answer ← connection.closingOnFailure
        (.passing response.body (checkAnswers response requestId))
      connection.closingOnFailure
        (.holding answer.body (.ofResult (connection.judge requestId answer decode)))) =
      connection.closingOnFailure
        (.holding response.body (.ofResult (connection.judge requestId response decode))) := by
  unfold checkAnswers
  by_cases hanswers : response.header.responseTo = requestId
  · rw [if_pos hanswers]
    rfl
  · have hparse : Reply.parse response.header response.body.bytes requestId =
        .error (.protocolFraming (.wrongResponse response.header.responseTo requestId)) :=
      if_pos hanswers
    rw [if_neg hanswers]
    unfold judge
    rw [hparse]
    rfl

/-- A command by parts that comes to bytes sends them, receives the answer and judges it. -/
theorem commandByParts_eq (connection : Connection σ) (mode : Mode) (message : Command)
    (decode : RawDocument → Except LinkError α) :
    connection.commandByParts mode message decode = (do
      let state ← get
      let bytes ← .ofResult (connection.outgoing state message)
      connection.send mode bytes message.requestId
      let response ← connection.receive mode message.requestId
      connection.closingOnFailure (.holding response.body
        (.ofResult (connection.judge message.requestId response decode)))) := by
  unfold commandByParts outgoing
  refine bind_congr fun state => ?_
  dsimp only
  cases message.encode state.profile.limits with
  | error fault => rfl
  | ok encoded =>
    cases state.sendCompressor with
    | none => rfl
    | some compressor =>
      cases message.isSensitive with
      | true => rfl
      | false => rfl

/-! ## The whole and its parts, step by step -/

section Steps

variable {mode : Mode} {message : Command} {decode : RawDocument → Except LinkError α}
  {bytes : Bytes} {requestId : UInt32}

/-- Receiving an answer and judging it. -/
def answering (connection : Connection σ) (mode : Mode) (limit : Nat) (requestId : UInt32)
    (decode : RawDocument → Except LinkError α) : Action σ α := do
  let response ← connection.closingOnFailure (connection.receiveWithin mode limit)
  connection.closingOnFailure
    (.holding response.body (.ofResult (connection.judge requestId response decode)))

/-- **The whole**: a command of which nobody hears writes, and then receives and judges. -/
theorem command_of_unheard (hlistener : connection.listener = none) (husable : state.Usable)
    (hbytes : connection.outgoing state message = .ok bytes) :
    connection.command mode message decode state = (do
      connection.closingOnFailure
        (connection.call mode .writing (.wrote bytes) (connection.transport.write mode bytes))
      connection.answering mode state.profile.limits.messageSize message.requestId decode) state := by
  have hunheard : (connection.dispatch state message).audience = none := by
    unfold dispatch audience
    rw [hlistener]
    exact ite_self none
  have hfailing : ∀ operation : Action σ α,
      connection.failing (connection.dispatch state message) operation =
        connection.closingOnFailure operation := by
    intro operation
    rw [failing_eq, closingOnFailure_eq, hunheard]
    rfl
  rw [command_of_outgoing husable hbytes, converse_eq, hfailing]
  unfold exchange answering
  simp only [closingOnFailure_bind, complete_of_unheard hunheard]
  rw [hunheard]
  rfl

theorem send_of_usable (connection : Connection σ) (husable : state.Usable) :
    connection.send mode bytes requestId state =
      connection.closingOnFailure
        (connection.call mode .writing (.wrote bytes) (connection.transport.write mode bytes))
        (state.log .trace "sending message"
          [("request_id", toString requestId.toNat), ("length", toString bytes.length)]) := by
  unfold send
  rw [Action.bind_of_ok (connection.requireStream_of_usable husable), Action.modify_bind]

/-- Receiving by hand and judging by hand is receiving and judging, where there is a stream. -/
theorem receive_of_usable (connection : Connection σ) (husable : state.Usable) :
    (do
      let response ← connection.receive mode requestId
      connection.closingOnFailure
        (.holding response.body (.ofResult (connection.judge requestId response decode)))) state =
      connection.answering mode state.profile.limits.messageSize requestId decode state := by
  have hreceive : connection.receive mode requestId state = (do
      let response ← connection.closingOnFailure
        (connection.receiveWithin mode state.profile.limits.messageSize)
      connection.closingOnFailure
        (.passing response.body (checkAnswers response requestId))) state := by
    unfold receive
    rw [Action.bind_of_ok (connection.requireStream_of_usable husable), Action.get_bind,
      closingOnFailure_bind]
  rw [Action.bind_congr hreceive fun _ _ _ => rfl, bind_assoc]
  simp only [judge_of_checked]
  rfl

/-- Receiving and judging does not read the log. -/
theorem blind_answering (connection : Connection σ) (mode : Mode) (limit : Nat)
    (requestId : UInt32) (decode : RawDocument → Except LinkError α) :
    Action.Blind (connection.answering mode limit requestId decode) :=
  Action.blind_bind (connection.blind_closingOnFailure (connection.blind_receiveWithin mode limit))
    fun response => connection.blind_closingOnFailure
      (Action.blind_holding response.body (Action.blind_ofResult _))

/-- **The parts**: a command by parts writes, with a line in the log before, and then receives and
judges if the connection is still usable. -/
theorem commandByParts_of_outgoing (husable : state.Usable)
    (hbytes : connection.outgoing state message = .ok bytes) :
    ∃ logged, state.SameButLog logged ∧
      connection.commandByParts mode message decode state = (do
        connection.closingOnFailure
          (connection.call mode .writing (.wrote bytes) (connection.transport.write mode bytes))
        let response ← connection.receive mode message.requestId
        connection.closingOnFailure (.holding response.body
          (.ofResult (connection.judge message.requestId response decode)))) logged := by
  refine ⟨_, .log state .trace "sending message" [("request_id", toString message.requestId.toNat),
    ("length", toString bytes.length)], ?_⟩
  rw [commandByParts_eq, Action.get_bind, Action.ofResult_bind_of_ok hbytes]
  exact Action.bind_congr (connection.send_of_usable husable) fun _ _ _ => rfl

end Steps

/-- A call that leaves the connection as it is leaves it usable. -/
theorem usable_of_call {mode : Mode} {stage : Stage} {happening : Happening}
    {perform : σ → Answer α × σ} {value : α} (husable : state.Usable)
    (h : connection.call mode stage happening perform state = .ok value next)
    (hkeeps : (perform state.stream).1 ≠ ⟨true, .done value⟩) :
    next.Usable ∧ next.profile = state.profile := by
  obtain ⟨houtcome, rfl⟩ := ok_of_call h
  have hcloses : (perform state.stream).1.closes = false := by
    rw [← Bool.not_eq_true]
    intro hcloses
    apply hkeeps
    rw [← hcloses, ← houtcome]
  unfold met
  rw [hcloses]
  exact ⟨⟨husable.notClosed, husable.hasStream⟩, rfl⟩

/-- A command that cannot be put into bytes comes to nothing, also by parts. -/
theorem commandByParts_of_outgoing_error {fault : LinkError}
    (hbytes : connection.outgoing state message = .error fault) :
    connection.commandByParts mode message decode state = .error fault state := by
  rw [commandByParts_eq, Action.get_bind, Action.ofResult_bind_of_error hbytes]

/-- Over a stream that does not close the connection by the write, the whole ends as the parts do. -/
theorem endsAlike_of_outgoing {mode : Mode} {message : Command} {bytes : Bytes}
    (decode : RawDocument → Except LinkError α) (hlistener : connection.listener = none)
    (husable : state.Usable) (hbytes : connection.outgoing state message = .ok bytes)
    (hkeeps : (connection.transport.write mode bytes state.stream).1 ≠ ⟨true, .done ()⟩) :
    EndsAlike ConnectionStatus.SameButLog (connection.command mode message decode state)
      (connection.commandByParts mode message decode state) := by
  obtain ⟨logged, hlogged, hparts⟩ :=
    @commandByParts_of_outgoing _ _ connection _ mode _ decode _ husable hbytes
  rw [command_of_unheard hlistener husable hbytes, hparts]
  refine (connection.blind_closingOnFailure (connection.blind_call mode .writing (.wrote bytes)
    (connection.transport.write mode bytes)) state logged hlogged).bind ?_
  intro _ written sent hwrite hsame
  obtain ⟨hwritten, hprofile⟩ := usable_of_call husable (ok_of_closingOnFailure hwrite) hkeeps
  rw [connection.receive_of_usable (hsame.usable hwritten), hsame.profile_eq, hprofile]
  exact connection.blind_answering mode _ _ decode written sent hsame

/-- Over one that does, the whole goes on, and of the parts there is no more to do. -/
theorem parted_of_outgoing {mode : Mode} {message : Command} {bytes : Bytes}
    (decode : RawDocument → Except LinkError α) (hlistener : connection.listener = none)
    (husable : state.Usable) (hbytes : connection.outgoing state message = .ok bytes)
    (hcloses : (connection.transport.write mode bytes state.stream).1 = ⟨true, .done ()⟩) :
    let written := connection.met (.wrote bytes) (connection.transport.write mode bytes) state
    written.phase = .closed ∧
    (∃ next, connection.commandByParts mode message decode state =
      .error (connection.closedError .before) next ∧ written.SameButLog next) ∧
    connection.command mode message decode state =
      connection.answering mode state.profile.limits.messageSize message.requestId decode
        written := by
  intro written
  obtain ⟨logged, hlogged, hparts⟩ :=
    @commandByParts_of_outgoing _ _ connection _ mode _ decode _ husable hbytes
  have hclosed : ∀ before : ConnectionStatus σ, before.stream = state.stream →
      (connection.met (.wrote bytes) (connection.transport.write mode bytes) before).phase =
        .closed := by
    intro before hstream
    unfold met
    rw [hstream, hcloses]
    exact connection.phase_shut _
  have hsame : written.SameButLog
      (connection.met (.wrote bytes) (connection.transport.write mode bytes) logged) :=
    connection.sameButLog_met hlogged _ _
  have hwrite : ∀ before : ConnectionStatus σ, before.phase ≠ .closed →
      before.stream = state.stream → connection.closingOnFailure (connection.call mode .writing
        (.wrote bytes) (connection.transport.write mode bytes)) before =
          .ok () (connection.met (.wrote bytes) (connection.transport.write mode bytes) before) :=
    fun before hopen hstream =>
      closingOnFailure_of_ok (call_of_done (begun_of_not_closed hopen) (by rw [hstream, hcloses]))
  refine ⟨hclosed state rfl, ⟨_, ?_, hsame⟩, ?_⟩
  · rw [hparts, Action.bind_of_ok
      (hwrite logged (hlogged.usable husable).notClosed hlogged.stream_eq)]
    exact Action.bind_of_error
      (connection.requireStream_bind_of_closed (hclosed logged hlogged.stream_eq))
  · rw [command_of_unheard hlistener husable hbytes,
      Action.bind_of_ok (hwrite state husable.notClosed rfl)]

end Connection

/-- **A command is its parts.** On a connection with a stream to use and nobody to listen, a command
in either mode ends as its parts do: with the same value or the same error, after the same calls of
the stream, and in the same state but for the lines of the log. It is otherwise only if the stream
closes the connection over the write and takes it all the same. Then the parts have come to their
end, since the connection is closed, and nothing was done after the write; the command goes on to
receive. -/
theorem command_by_parts {connection : Connection σ} (hlistener : connection.listener = none)
    {state : ConnectionStatus σ} (husable : state.Usable) (mode : Mode) (message : Command)
    (decode : RawDocument → Except LinkError α) :
    let answer bytes := (connection.transport.write mode bytes state.stream).1
    ((∀ bytes, connection.outgoing state message = .ok bytes → answer bytes ≠ ⟨true, .done ()⟩) →
      EndsAlike ConnectionStatus.SameButLog (connection.command mode message decode state)
        (connection.commandByParts mode message decode state)) ∧
    ∀ bytes, connection.outgoing state message = .ok bytes → answer bytes = ⟨true, .done ()⟩ →
      let written := connection.met (.wrote bytes) (connection.transport.write mode bytes) state
      written.phase = .closed ∧
      (∃ next, connection.commandByParts mode message decode state =
        .error (connection.closedError .before) next ∧ written.SameButLog next) ∧
      connection.command mode message decode state =
        connection.answering mode state.profile.limits.messageSize message.requestId decode
          written := by
  intro answer
  refine ⟨fun hkeeps => ?_, fun bytes hbytes hcloses =>
    parted_of_outgoing decode hlistener husable hbytes hcloses⟩
  cases hbytes : connection.outgoing state message with
  | error fault =>
    rw [command_of_outgoing_error husable hbytes, commandByParts_of_outgoing_error hbytes]
    exact .error fault (.refl state)
  | ok bytes => exact endsAlike_of_outgoing decode hlistener husable hbytes (hkeeps bytes hbytes)

/-- A connection to a ready peer once it is open, with the answer to a ping ready. -/
def ReadyPeer.answered : ConnectionStatus ReadyPeer :=
  ((connection .empty).run [.establish .blocking] ((connection .empty).start
    (.having ((⟨34, 10, 1, 2013⟩ : Header).encode ++
      [0, 0, 0, 0, 0, 13, 0, 0, 0, 0x10, 0x6F, 0x6B, 0, 1, 0, 0, 0, 0])) .initial)).1

/-- A ping and its parts, both answered. -/
theorem command_by_parts_ping :
    EndsAlike ConnectionStatus.SameButLog
        ((ReadyPeer.connection .empty).command .awaited (.ofCommand 1 "app" [("ping", .int32 1)])
          RawDocument.toDocument ReadyPeer.answered)
        ((ReadyPeer.connection .empty).commandByParts .awaited
          (.ofCommand 1 "app" [("ping", .int32 1)]) RawDocument.toDocument ReadyPeer.answered) ∧
      ∃ next, (ReadyPeer.connection .empty).commandByParts .awaited
          (.ofCommand 1 "app" [("ping", .int32 1)]) RawDocument.toDocument ReadyPeer.answered =
        .ok [("ok", .int32 1)] next := by
  have husable : ReadyPeer.answered.Usable := ⟨by decide, rfl⟩
  obtain ⟨halike, -⟩ := @command_by_parts _ _ (ReadyPeer.connection .empty) rfl _ husable .awaited
    (.ofCommand 1 "app" [("ping", .int32 1)]) RawDocument.toDocument
  exact ⟨halike fun _ _ => nofun, _, rfl⟩

/-- **A command goes on where its parts do not**: over a stream that closes the connection by taking
the write, the one is told so by its read, the other by its own check. -/
theorem parted_and_closed :
    let ping : Command := .ofCommand 1 "app" [("ping", .int32 1)]
    ∃ state, (ScriptedPeer.connection.run [.establish .blocking]
        (ScriptedPeer.connection.start .closing .initial)).1 = state ∧
      state.Usable ∧ ScriptedPeer.connection.listener = none ∧
      (∃ next, ScriptedPeer.connection.command .blocking ping RawDocument.toDocument state =
        .error (.closed ⟨"mock", 27017⟩ (.stated "stream closed")) next) ∧
      ∃ next, ScriptedPeer.connection.commandByParts .blocking ping RawDocument.toDocument state =
        .error (.closed ⟨"mock", 27017⟩ .before) next :=
  ⟨_, rfl, ⟨by decide, rfl⟩, rfl, ⟨_, rfl⟩, _, rfl⟩

end CommandLink
