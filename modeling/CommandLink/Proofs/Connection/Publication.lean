import CommandLink.Connection.Ready
import CommandLink.Proofs.Connection.Settlement

/-!
# What is told of a command

What a listener hears of a command and what is written for it stand in the journal in one order, as
signals. A command on an open connection is told to have started, then its bytes are written, and
then it is told how it ended: that it succeeded, that it failed, or both, where the server has
confirmed it and only its reply could not be decoded (`commands_reported`). Of a command that comes
to nothing, and of one on a connection that is not open, nothing is told.
-/

namespace CommandLink

open Connection

variable {σ α : Type}

/-- What a listener and a peer get to know of. -/
inductive Signal where
  | told (event : CommandEvent)
  | wrote (bytes : Bytes)

/-- The signal that an entry of the journal is. -/
def Happening.signal? : Happening → Option Signal
  | told event => some (.told event)
  | wrote bytes => some (.wrote bytes)
  | _ => none

namespace ConnectionStatus

/-- All signals that were given, in order. -/
def signals (state : ConnectionStatus σ) : List Signal := state.entries Happening.signal?

@[simp] theorem signals_note (state : ConnectionStatus σ) (happening : Happening) :
    (state.note happening).signals = state.signals ++ happening.signal?.toList :=
  entries_note _ state happening

theorem signals_tell (state : ConnectionStatus σ) (listener : Option Listener)
    (event : CommandEvent) : (state.tell listener event).signals =
      state.signals ++ if listener.isSome then [.told event] else [] :=
  entries_tell (fun _ => rfl) state listener event

end ConnectionStatus

namespace Connection

/-- The signals of events of a command under way: there are none where nobody hears of it. -/
def Dispatch.heard (dispatch : Dispatch) (events : List CommandEvent) : List Signal :=
  if dispatch.audience.isSome then events.map .told else []

theorem Dispatch.signals_tell (dispatch : Dispatch) (event : CommandEvent)
    (state : ConnectionStatus σ) :
    (state.tell dispatch.audience event).signals = state.signals ++ dispatch.heard [event] :=
  ConnectionStatus.signals_tell state dispatch.audience event

theorem Dispatch.heard_append (dispatch : Dispatch) (first second : List CommandEvent) :
    dispatch.heard first ++ dispatch.heard second = dispatch.heard (first ++ second) := by
  unfold heard
  split
  · exact List.map_append.symm
  · rfl

variable {connection : Connection σ} {state next : ConnectionStatus σ}

/-! ## What gives no signal -/

/-- No signal was given in between. -/
def Silent (state next : ConnectionStatus σ) : Prop :=
  Entered (fun happening => happening.signal? = none) state next

theorem lasting_silent (connection : Connection σ) : connection.Lasting Silent :=
  connection.lasting_entered (fun _ => rfl) rfl rfl

theorem Silent.signals_eq (h : Silent state next) : next.signals = state.signals :=
  Entered.entries_eq h

@[simp] theorem signals_shut (connection : Connection σ) (state : ConnectionStatus σ) :
    (connection.shut state).signals = state.signals :=
  (connection.lasting_silent.shut state).signals_eq

/-- **Receiving** gives no signal, however it ends. -/
theorem signals_receiveWithin (connection : Connection σ) (mode : Mode) (limit : Nat)
    (state : ConnectionStatus σ) :
    ((connection.receiveWithin mode limit).after state).signals = state.signals :=
  Silent.signals_eq <| connection.lasting_silent.keeps_receiveWithin
    ⟨admits_entered rfl, fun _ _ => admits_entered rfl, fun _ _ => Entered.note rfl⟩ state

/-- A write that is begun gives one. -/
theorem signals_write (connection : Connection σ) (mode : Mode) (bytes : Bytes)
    (hopen : state.phase ≠ .closed) :
    ((connection.call mode .writing (.wrote bytes)
      (connection.transport.write mode bytes)).after state).signals =
        state.signals ++ [.wrote bytes] := by
  have hcall : Silent (state.called (.wrote bytes) (connection.transport.write mode bytes))
      ((connection.call mode .writing (.wrote bytes)
        (connection.transport.write mode bytes)).after state) :=
    connection.lasting_silent.after_call (begun_of_not_closed hopen)
  exact hcall.signals_eq.trans (ConnectionStatus.signals_note _ _)

/-! ## Confirmation -/

/-- A message confirms a command with a document if it is a reply to it, and the document reports
success. -/
def Passes (dispatch : Dispatch) (response : Response) (document : RawDocument) : Prop :=
  ∃ reply, Reply.parse response.header response.body.bytes dispatch.identity.requestId =
    .ok reply ∧ reply.document = document ∧ document.reportsSuccess = .ok true

/-- A reply that passes is told of, and then decoded. -/
theorem complete_of_passes {dispatch : Dispatch} {response : Response} {document : RawDocument}
    (hpasses : Passes dispatch response document) (decode : RawDocument → Except LinkError α)
    (state : ConnectionStatus σ) :
    connection.complete dispatch response decode state =
      Action.ofResult (decode document)
        (state.tell dispatch.audience (dispatch.identity.succeeded document)) := by
  obtain ⟨reply, hparse, rfl, hsuccess⟩ := hpasses
  unfold complete
  rw [Action.ofResult_bind_of_ok hparse, Action.ofResult_bind_of_ok hsuccess, if_pos rfl,
    Action.modify_bind]

/-- Of any other one nothing is told, and nothing comes. -/
theorem complete_of_not_passes {dispatch : Dispatch} {response : Response}
    (hpasses : ∀ document, ¬ Passes dispatch response document)
    (decode : RawDocument → Except LinkError α) (state : ConnectionStatus σ) :
    ∃ error, connection.complete dispatch response decode state = .error error state := by
  unfold complete
  cases hparse : Reply.parse response.header response.body.bytes dispatch.identity.requestId with
  | error fault => exact ⟨fault, Action.ofResult_bind_of_error rfl⟩
  | ok reply =>
    rw [Action.ofResult_bind_of_ok rfl]
    cases hsuccess : reply.document.reportsSuccess with
    | error fault => exact ⟨fault, Action.ofResult_bind_of_error rfl⟩
    | ok success =>
      rw [Action.ofResult_bind_of_ok rfl]
      cases success with
      | true => exact absurd ⟨reply, hparse, rfl, hsuccess⟩ (hpasses reply.document)
      | false =>
        cases hdocument : reply.document.toDocument with
        | error fault => exact ⟨fault, Action.ofResult_bind_of_error rfl⟩
        | ok document => exact ⟨_, Action.ofResult_bind_of_ok rfl⟩

/-! ## A conversation and its signals -/

/-- What a conversation does before its failure, if it fails, is told of. -/
def exchange (connection : Connection σ) (mode : Mode) (dispatch : Dispatch) (bytes : Bytes)
    (limit : Nat) (decode : RawDocument → Except LinkError α) : Action σ α := do
  connection.call mode .writing (.wrote bytes) (connection.transport.write mode bytes)
  let response ← connection.receiveWithin mode limit
  .holding response.body (connection.complete dispatch response decode)

theorem converse_eq (connection : Connection σ) (mode : Mode) (dispatch : Dispatch)
    (bytes : Bytes) (limit : Nat) (decode : RawDocument → Except LinkError α) :
    connection.converse mode dispatch bytes limit decode =
      connection.failing dispatch (connection.exchange mode dispatch bytes limit decode) := rfl

/-- A conversation is confirmed with a document: its bytes are written, a message is received within
the limit, and it passes. -/
def Confirmed (connection : Connection σ) (mode : Mode) (dispatch : Dispatch) (bytes : Bytes)
    (limit : Nat) (state : ConnectionStatus σ) (document : RawDocument) : Prop :=
  ∃ written response received,
    connection.call mode .writing (.wrote bytes) (connection.transport.write mode bytes) state =
      .ok () written ∧
    connection.receiveWithin mode limit written = .ok response received ∧
    Passes dispatch response document

section Conversation

variable {mode : Mode} {dispatch : Dispatch} {bytes : Bytes} {limit : Nat}

/-- Without an answer nothing is confirmed. -/
theorem not_confirmed_of_call {fault : LinkError} {failed : ConnectionStatus σ}
    (hcall : connection.call mode .writing (.wrote bytes) (connection.transport.write mode bytes)
      state = .error fault failed) (document : RawDocument) :
    ¬ connection.Confirmed mode dispatch bytes limit state document := by
  rintro ⟨written, response, received, hwrite, -, -⟩
  rw [hcall] at hwrite
  cases hwrite

theorem not_confirmed_of_receive {fault : LinkError} {written failed : ConnectionStatus σ}
    (hcall : connection.call mode .writing (.wrote bytes) (connection.transport.write mode bytes)
      state = .ok () written)
    (hreceive : connection.receiveWithin mode limit written = .error fault failed)
    (document : RawDocument) :
    ¬ connection.Confirmed mode dispatch bytes limit state document := by
  rintro ⟨_, response, received, hwrite, hother, -⟩
  rw [hcall] at hwrite
  cases hwrite
  rw [hreceive] at hother
  cases hother

/-- What is confirmed is so by the message that was received. -/
theorem passes_of_confirmed {response : Response} {written received : ConnectionStatus σ}
    (hcall : connection.call mode .writing (.wrote bytes) (connection.transport.write mode bytes)
      state = .ok () written)
    (hreceive : connection.receiveWithin mode limit written = .ok response received)
    {document : RawDocument}
    (h : connection.Confirmed mode dispatch bytes limit state document) :
    Passes dispatch response document := by
  obtain ⟨_, other, _, hwrite, hother, hpasses⟩ := h
  rw [hcall] at hwrite
  cases hwrite
  rw [hreceive] at hother
  cases hother
  exact hpasses

/-- **The signals of an exchange**: the write, and that the command succeeded if it was confirmed.
-/
theorem signals_of_exchange (decode : RawDocument → Except LinkError α)
    (hopen : state.phase ≠ .closed) :
    match connection.exchange mode dispatch bytes limit decode state with
    | .ok value next => ∃ document,
        connection.Confirmed mode dispatch bytes limit state document ∧
        decode document = .ok value ∧ next.signals =
          state.signals ++ [.wrote bytes] ++ dispatch.heard [dispatch.identity.succeeded document]
    | .error error next =>
        (∃ document, connection.Confirmed mode dispatch bytes limit state document ∧
          decode document = .error error ∧ next.signals = state.signals ++ [.wrote bytes] ++
            dispatch.heard [dispatch.identity.succeeded document]) ∨
        (∀ document, ¬ connection.Confirmed mode dispatch bytes limit state document) ∧
          next.signals = state.signals ++ [.wrote bytes] := by
  have hwrites := connection.signals_write mode bytes hopen
  unfold exchange
  cases hcall : connection.call mode .writing (.wrote bytes)
      (connection.transport.write mode bytes) state with
  | error fault failed =>
    rw [Action.after_of_error hcall] at hwrites
    rw [Action.bind_of_error hcall]
    exact .inr ⟨not_confirmed_of_call hcall, hwrites⟩
  | ok _ written =>
    rw [Action.after_of_ok hcall] at hwrites
    have hreceives := connection.signals_receiveWithin mode limit written
    rw [hwrites] at hreceives
    rw [Action.bind_of_ok hcall]
    cases hreceive : connection.receiveWithin mode limit written with
    | error fault failed =>
      rw [Action.after_of_error hreceive] at hreceives
      rw [Action.bind_of_error hreceive]
      exact .inr ⟨not_confirmed_of_receive hcall hreceive, hreceives⟩
    | ok response received =>
      rw [Action.after_of_ok hreceive] at hreceives
      rw [Action.bind_of_ok hreceive]
      -- only from here on may the command be confirmed, and only by this message
      by_cases hpasses : ∃ document, Passes dispatch response document
      · obtain ⟨document, hpasses⟩ := hpasses
        have hconfirmed : connection.Confirmed mode dispatch bytes limit state document :=
          ⟨written, response, received, hcall, hreceive, hpasses⟩
        have htold := dispatch.signals_tell (dispatch.identity.succeeded document) received
        rw [hreceives] at htold
        unfold Action.holding
        rw [complete_of_passes hpasses]
        cases hdecode : decode document with
        | ok value => exact ⟨document, hconfirmed, hdecode, htold⟩
        | error fault => exact .inl ⟨document, hconfirmed, hdecode, htold⟩
      · have hnone : ∀ document, ¬ Passes dispatch response document :=
          fun document h => hpasses ⟨document, h⟩
        obtain ⟨fault, hcomplete⟩ :=
          @complete_of_not_passes _ _ connection dispatch response hnone decode received
        unfold Action.holding
        rw [hcomplete]
        exact .inr ⟨fun document h => hnone document (passes_of_confirmed hcall hreceive h),
          hreceives⟩

/-- **The signals of a conversation**: the write, and how the command ended. -/
theorem signals_of_converse (decode : RawDocument → Except LinkError α)
    (hopen : state.phase ≠ .closed) :
    match connection.converse mode dispatch bytes limit decode state with
    | .ok value next => ∃ document,
        connection.Confirmed mode dispatch bytes limit state document ∧
        decode document = .ok value ∧ next.signals = state.signals ++ [.wrote bytes] ++
          dispatch.heard [dispatch.identity.succeeded document]
    | .error error next =>
        (∃ document, connection.Confirmed mode dispatch bytes limit state document ∧
          decode document = .error error ∧ next.signals = state.signals ++ [.wrote bytes] ++
            dispatch.heard [dispatch.identity.succeeded document, dispatch.identity.failed error]) ∨
        (∀ document, ¬ connection.Confirmed mode dispatch bytes limit state document) ∧
          next.signals = state.signals ++ [.wrote bytes] ++
            dispatch.heard [dispatch.identity.failed error] := by
  have hexchange := @signals_of_exchange _ _ connection _ mode dispatch bytes limit decode hopen
  rw [converse_eq, failing_eq]
  cases hresult : connection.exchange mode dispatch bytes limit decode state with
  | ok value next =>
    rw [hresult] at hexchange
    rw [Action.concluding_of_ok hresult]
    exact hexchange
  | error error next =>
    rw [hresult] at hexchange
    rw [Action.concluding_of_error hresult]
    dsimp only
    rw [signals_shut, dispatch.signals_tell]
    rcases hexchange with ⟨document, hconfirmed, hdecode, hsignals⟩ | ⟨hnone, hsignals⟩
    · refine .inl ⟨document, hconfirmed, hdecode, ?_⟩
      rw [hsignals, List.append_assoc, dispatch.heard_append]
      rfl
    · refine .inr ⟨hnone, ?_⟩
      rw [hsignals]

end Conversation

/-- A message sent as these bytes is confirmed with a document in the conversation that it begins.
-/
def Confirms (connection : Connection σ) (mode : Mode) (message : Command)
    (state : ConnectionStatus σ) (bytes : Bytes) (document : RawDocument) : Prop :=
  let dispatch := connection.dispatch state message
  connection.Confirmed mode dispatch bytes state.profile.limits.messageSize
    (state.tell dispatch.audience (dispatch.identity.started message)) document

/-- **The signals of a command** that is conversed: it started, and then those of its
conversation. -/
theorem signals_of_command (mode : Mode) {message : Command} {bytes : Bytes}
    (decode : RawDocument → Except LinkError α) (husable : state.Usable)
    (hbytes : connection.outgoing state message = .ok bytes) :
    let dispatch := connection.dispatch state message
    let begun := state.signals ++ dispatch.heard [dispatch.identity.started message] ++
      [.wrote bytes]
    match connection.command mode message decode state with
    | .ok value next => ∃ document, connection.Confirms mode message state bytes document ∧
        decode document = .ok value ∧
        next.signals = begun ++ dispatch.heard [dispatch.identity.succeeded document]
    | .error error next =>
        (∃ document, connection.Confirms mode message state bytes document ∧
          decode document = .error error ∧ next.signals = begun ++
            dispatch.heard [dispatch.identity.succeeded document, dispatch.identity.failed error]) ∨
        (∀ document, ¬ connection.Confirms mode message state bytes document) ∧
          next.signals = begun ++ dispatch.heard [dispatch.identity.failed error] := by
  intro dispatch begun
  let told := state.tell dispatch.audience (dispatch.identity.started message)
  have hopen : told.phase ≠ .closed := by
    rw [phase_tell]
    exact husable.notClosed
  have hbegun : told.signals ++ [.wrote bytes] = begun := by
    rw [dispatch.signals_tell]
  rw [command_of_outgoing husable hbytes, ← hbegun]
  exact signals_of_converse decode hopen

/-- A listener hears of the commands of an open connection. -/
theorem heard_of_listener {listener : Listener} (hlistener : connection.listener = some listener)
    (message : Command) (events : List CommandEvent) :
    (connection.dispatch state message).heard events =
      if state.phase = .opened then events.map .told else [] := by
  unfold Dispatch.heard dispatch audience ConnectionStatus.isOpen
  rw [hlistener]
  by_cases hopened : state.phase = .opened
  · simp only [hopened, decide_true, if_true, Option.isSome_some]
  · simp only [hopened, decide_false, Bool.false_eq_true, if_false, Option.isSome_none]

end Connection

/-- **What is told of a command.** In any state and either mode, a command that comes to nothing is
not told of. Of one that is written a listener hears, on an open connection, that it started, before
the write; then that it succeeded if it gives a value, that it failed if it was not confirmed, and
both if only its document could not be decoded. All of this is told of one identity, and of commands
with credentials without what they carry. -/
theorem commands_reported {connection : Connection σ} {listener : Listener}
    (hlistener : connection.listener = some listener) (mode : Mode) (message : Command)
    (decode : RawDocument → Except LinkError α) (state : ConnectionStatus σ) :
    let identity := CommandIdentity.ofMessage state.profile.connection message
    let started : CommandStage := .started message.space.database
      (if message.isSensitive then [] else message.command.unwrapped)
    let succeeded (document : RawDocument) : CommandStage :=
      .succeeded (if message.isSensitive then [] else document.decode?.getD [])
    let failed (error : LinkError) : CommandStage :=
      .failed (if message.isSensitive then error.withoutDetail else error)
    let told (stages : List CommandStage) : List Signal :=
      if state.phase = .opened then stages.map fun stage => .told ⟨identity, stage⟩ else []
    match connection.command mode message decode state with
    | .ok value next => ∃ bytes document, connection.outgoing state message = .ok bytes ∧
        connection.Confirms mode message state bytes document ∧ decode document = .ok value ∧
        next.signals = state.signals ++ told [started] ++ [.wrote bytes] ++
          told [succeeded document]
    | .error error next =>
        ((¬ state.Usable ∨ ∃ fault, connection.outgoing state message = .error fault) ∧
          next = state) ∨
        ∃ bytes, connection.outgoing state message = .ok bytes ∧
          ((∃ document, connection.Confirms mode message state bytes document ∧
            decode document = .error error ∧
            next.signals = state.signals ++ told [started] ++ [.wrote bytes] ++
              told [succeeded document, failed error]) ∨
          (∀ document, ¬ connection.Confirms mode message state bytes document) ∧
            next.signals = state.signals ++ told [started] ++ [.wrote bytes] ++
              told [failed error]) := by
  dsimp only
  by_cases husable : state.Usable
  · cases hbytes : connection.outgoing state message with
    | error fault =>
      rw [command_of_outgoing_error husable hbytes]
      exact .inl ⟨.inr ⟨fault, rfl⟩, rfl⟩
    | ok bytes =>
      have hsignals := signals_of_command mode decode husable hbytes
      simp only [heard_of_listener hlistener] at hsignals
      cases hresult : connection.command mode message decode state with
      | ok value next =>
        rw [hresult] at hsignals
        obtain ⟨document, hconfirms, hdecode, hsignals⟩ := hsignals
        exact ⟨bytes, document, rfl, hconfirms, hdecode, hsignals⟩
      | error error next =>
        rw [hresult] at hsignals
        exact .inr ⟨bytes, rfl, hsignals⟩
  · obtain ⟨fault, hrefused⟩ := @command_of_not_usable _ _ connection _ mode message decode husable
    rw [hrefused]
    exact .inl ⟨.inl husable, rfl⟩

/-- A connection to a ready peer, with a listener. -/
def ReadyPeer.attended : Connection ReadyPeer :=
  { ReadyPeer.connection .empty with listener := some (.recording []) }

/-- Such a connection once it is open, with the answer to a ping ready. -/
def ReadyPeer.answering : ConnectionStatus ReadyPeer :=
  (attended.run [.establish .blocking] (attended.start
    (.having ((⟨34, 10, 1, 2013⟩ : Header).encode ++
      [0, 0, 0, 0, 0, 13, 0, 0, 0, 0x10, 0x6F, 0x6B, 0, 1, 0, 0, 0, 0])) .initial)).1

/-- A ping that is answered is told to have started and, after its write, to have succeeded. -/
theorem commands_reported_ping :
    ∃ bytes document next, ReadyPeer.attended.command .awaited
        (.ofCommand 1 "app" [("ping", .int32 1)]) RawDocument.toDocument ReadyPeer.answering =
        .ok [("ok", .int32 1)] next ∧
      RawDocument.toDocument document = .ok [("ok", .int32 1)] ∧
      let identity : CommandIdentity := ⟨ReadyPeer.answering.profile.connection, 1, "ping"⟩
      next.signals =
        [.told ⟨identity, .started "app" [("ping", .int32 1)]⟩, .wrote bytes,
          .told ⟨identity, .succeeded (document.decode?.getD [])⟩] := by
  have hreported := @commands_reported _ _ ReadyPeer.attended (.recording []) rfl .awaited
    (.ofCommand 1 "app" [("ping", .int32 1)]) RawDocument.toDocument ReadyPeer.answering
  obtain ⟨bytes, document, -, -, hdecode, hsignals⟩ := hreported
  exact ⟨bytes, document, _, rfl, hdecode, hsignals⟩

end CommandLink
