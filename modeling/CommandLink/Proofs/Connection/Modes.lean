import CommandLink.Connection.Transcript
import CommandLink.Proofs.Connection.Settlement

/-!
# The two forms of an operation

A transport is uniform if its awaited calls end as its blocking ones do. Over such a transport the
two forms of every operation do the same, call by call, so sessions that differ in forms only have
the same transcript (`transcripts_agree`). What carries this is that a call that succeeds leaves the
connection as it is: an awaited call that follows is then begun as a blocking one is. Scripts
without stalls and closings make peers uniform (`ScriptedPeer.uniform`).
-/

namespace CommandLink

open Connection

variable {σ α : Type}

/-- A reserved transport whose awaited calls end as its blocking ones do, as long as its streams are
of a kind that all calls leave them in. -/
structure Transport.Uniform (transport : Transport σ) (kind : σ → Prop) : Prop
    extends transport.Reserved kind where
  create : ∀ {stream}, kind stream → ∀ address, kind (transport.create address stream).2
  connect : ∀ {stream}, kind stream → ∀ mode, kind (transport.connect mode stream).2
  close : ∀ {stream}, kind stream → kind (transport.close stream)
  connectSame : ∀ {stream}, kind stream →
    transport.connect .awaited stream = transport.connect .blocking stream
  writeSame : ∀ {stream}, kind stream → ∀ bytes,
    transport.write .awaited bytes stream = transport.write .blocking bytes stream
  readSame : ∀ {stream}, kind stream → ∀ count,
    transport.read .awaited count stream = transport.read .blocking count stream

namespace Action

variable {operation other : Action σ α} {state : ConnectionStatus σ}

theorem account_congr (h : operation state = other state) :
    operation.account state = other.account state := by
  unfold account
  rw [h]

theorem state_account (operation : Action σ α) (state : ConnectionStatus σ) :
    (operation.account state).state = operation.after state := by
  unfold account after
  cases operation state with
  | ok value next => rfl
  | error error next => rfl

end Action

/-- A way of learning the profile of a server whose two forms do the same and leave the stream of
its kind. -/
structure Agreeing (kind : σ → Prop) (learn : Mode → Action σ ConnectionProfile) : Prop where
  same : ∀ {state : ConnectionStatus σ}, kind state.stream →
    learn .awaited state = learn .blocking state
  keeps : ∀ {state : ConnectionStatus σ}, kind state.stream → ∀ mode,
    kind ((learn mode).after state).stream

namespace Connection

variable {connection : Connection σ} {state : ConnectionStatus σ}

/-- On a connection that is not closed an awaited call does what a blocking one does. -/
theorem call_same {stage : Stage} {happening : Happening} {perform other : σ → Answer α × σ}
    (hopen : state.phase ≠ .closed) (hsame : perform state.stream = other state.stream) :
    connection.call .awaited stage happening perform state =
      connection.call .blocking stage happening other state := by
  unfold call
  rw [if_neg (begun_of_not_closed hopen), if_neg (begun_of_not_closed hopen), hsame]

/-- Operations on messages are refused alike. -/
theorem requireStream_bind_congr {rest other : Unit → Action σ α}
    (h : state.Usable → rest () state = other () state) :
    (connection.requireStream >>= rest) state = (connection.requireStream >>= other) state := by
  by_cases husable : state.Usable
  · rw [Action.bind_of_ok (connection.requireStream_of_usable husable),
      Action.bind_of_ok (connection.requireStream_of_usable husable)]
    exact h husable
  · obtain ⟨fault, hrefused⟩ := connection.requireStream_of_not_usable husable
    rw [Action.bind_of_error hrefused, Action.bind_of_error hrefused]

end Connection

namespace Transport.Uniform

variable {connection : Connection σ} {kind : σ → Prop}
  (huniform : connection.transport.Uniform kind)

include huniform

/-! ## What keeps the kind of a stream -/

/-- The kind of the stream outlasts all that happens between calls. -/
theorem lasting_kind :
    connection.Lasting fun state next => kind state.stream → kind next.stream where
  refl _ := id
  trans hfirst hsecond hkind := hsecond (hfirst hkind)
  logged _ _ := id
  waited _ := id
  ledger _ _ := id
  shut state hkind := by
    obtain ⟨stream, _, hshut, rfl | rfl⟩ := connection.shut_eq state
    · rw [hshut]
      exact hkind
    · rw [hshut]
      exact huniform.close hkind

theorem kind_of_shutStream (state : ConnectionStatus σ) (hkind : kind state.stream) :
    kind (connection.shutStream state).stream := by
  unfold shutStream
  split
  · exact huniform.close hkind
  · exact hkind

theorem admits_write (mode : Mode) (bytes : Bytes) :
    Admits (fun state next => kind state.stream → kind next.stream) (.wrote bytes)
      (connection.transport.write mode bytes) :=
  fun _ hkind => (huniform.write hkind mode bytes).2

theorem admitsReceiving (mode : Mode) (limit : Nat) :
    connection.AdmitsReceiving (fun state next => kind state.stream → kind next.stream)
      mode limit where
  header _ hkind := (huniform.read hkind mode _).2
  body count _ _ hkind := (huniform.read hkind mode count).2
  spare _ _ _ := id

/-- **Every operation keeps the kind** of the stream. -/
theorem keeps_performBy {learn : Mode → Action σ ConnectionProfile} (hlearn : Agreeing kind learn)
    (operation : Operation) :
    Action.Keeps (fun state next => kind state.stream → kind next.stream)
      (operation.performBy connection learn) := by
  have hlasting := huniform.lasting_kind
  cases operation with
  | establish mode =>
    refine hlasting.keeps_bind (hlasting.keeps_begin (fun _ => id) (fun _ => id)
      huniform.kind_of_shutStream fun _ hkind => huniform.create hkind _) ?_
    intro _
    refine hlasting.keeps_bind (hlasting.keeps_closingOnFailure ?_)
      fun _ => Action.keeps_modify fun _ => id
    refine hlasting.keeps_bind (hlasting.keeps_call fun _ hkind => huniform.connect hkind mode) ?_
    intro _
    refine hlasting.keeps_bind (fun _ hkind => hlearn.keeps hkind mode) ?_
    exact fun profile => hlasting.keeps_adopt profile (fun _ _ => id) fun _ => id
  | command mode message decode =>
    exact fun state => hlasting.keeps_command (fun _ _ => id) decode state
      (fun bytes _ => huniform.admits_write mode bytes) (huniform.admitsReceiving mode _)
  | send mode bytes requestId =>
    exact hlasting.keeps_send requestId (huniform.admits_write mode bytes)
  | receive mode responseTo =>
    exact fun state =>
      hlasting.keeps_receive responseTo state (huniform.admitsReceiving mode _)
  | borrow size => exact hlasting.keeps_borrowBuffer fun _ => id
  | drop buffer => exact Action.keeps_modify fun state => hlasting.drop state buffer
  | close => exact Action.keeps_modify hlasting.shut

/-! ## What is done alike -/

variable {state : ConnectionStatus σ}

theorem readBuffer_same (stage : Stage) (count : Nat) (hopen : state.phase ≠ .closed)
    (hkind : kind state.stream) :
    connection.readBuffer .awaited stage count state =
      connection.readBuffer .blocking stage count state :=
  Action.bind_congr (call_same hopen (huniform.readSame hkind count)) fun _ _ _ => rfl

/-- **Receiving** does the same in either form. -/
theorem receiveWithin_same (limit : Nat) (hopen : state.phase ≠ .closed)
    (hkind : kind state.stream) :
    connection.receiveWithin .awaited limit state =
      connection.receiveWithin .blocking limit state := by
  refine Action.bind_congr rfl fun _ logged hlogged => ?_
  cases hlogged
  refine Action.bind_congr (huniform.readBuffer_same _ _ hopen hkind) fun front fronted hfront => ?_
  -- the header was read with the connection as it is, so the body's read is begun in either form
  have hkept := huniform.kept_of_ran (ran_of_readBuffer hfront) hkind
  rw [Action.holding_eq, Action.holding_eq]
  refine Action.concluding_congr (Action.bind_congr rfl fun header decoded hdecode => ?_)
  obtain ⟨-, rfl⟩ := Action.ok_of_ofResult hdecode
  exact Action.bind_congr (huniform.readBuffer_same _ _ (hkept.notClosed hopen) hkept.2)
    fun _ _ _ => rfl

theorem converse_same (dispatch : Dispatch) (bytes : Bytes) (limit : Nat)
    (decode : RawDocument → Except LinkError α) (hopen : state.phase ≠ .closed)
    (hkind : kind state.stream) :
    connection.converse .awaited dispatch bytes limit decode state =
      connection.converse .blocking dispatch bytes limit decode state := by
  refine Action.concluding_congr (Action.bind_congr
    (call_same hopen (huniform.writeSame hkind bytes)) fun _ written hwrite => ?_)
  have hkept := huniform.kept_of_ran (ran_of_call hwrite rfl rfl) hkind
  exact Action.bind_congr (huniform.receiveWithin_same limit (hkept.notClosed hopen) hkept.2)
    fun _ _ _ => rfl

/-- **A command** does the same in either form. -/
theorem command_same (message : Command) (decode : RawDocument → Except LinkError α)
    (hkind : kind state.stream) :
    connection.command .awaited message decode state =
      connection.command .blocking message decode state := by
  refine requireStream_bind_congr fun husable => ?_
  rw [Action.get_bind, Action.get_bind]
  refine Action.bind_congr rfl fun bytes encoded hencode => ?_
  obtain ⟨-, rfl⟩ := Action.ok_of_ofResult hencode
  rw [Action.modify_bind, Action.modify_bind]
  obtain ⟨_, _, htold⟩ := alike_tell encoded (connection.dispatch encoded message).audience
    ((connection.dispatch encoded message).identity.started message)
  rw [htold]
  exact huniform.converse_same _ bytes _ decode husable.notClosed hkind

theorem send_same (bytes : Bytes) (requestId : UInt32) (hkind : kind state.stream) :
    connection.send .awaited bytes requestId state =
      connection.send .blocking bytes requestId state := by
  refine requireStream_bind_congr fun husable => ?_
  rw [Action.modify_bind, Action.modify_bind]
  exact Action.concluding_congr (call_same husable.notClosed (huniform.writeSame hkind bytes))

theorem receive_same (responseTo : UInt32) (hkind : kind state.stream) :
    connection.receive .awaited responseTo state =
      connection.receive .blocking responseTo state := by
  refine requireStream_bind_congr fun husable => ?_
  rw [Action.get_bind, Action.get_bind]
  exact Action.concluding_congr (Action.bind_congr
    (huniform.receiveWithin_same _ husable.notClosed hkind) fun _ _ _ => rfl)

/-- **Asking the server for its profile** does the same in either form, and so does taking a
prepared one. -/
theorem agreeing_describe : Agreeing kind connection.describe where
  same := by
    intro state hkind
    unfold describe
    cases connection.initializer with
    | handshake handshake =>
      refine Action.bind_congr rfl fun requestId numbered hnumber => ?_
      cases hnumber
      exact Action.bind_congr (huniform.command_same _ _ hkind) fun _ _ _ => rfl
    | prepared closes describe => rfl
  keeps := by
    intro state hkind mode
    exact huniform.lasting_kind.keeps_describe (fun _ _ => id) (fun _ _ => id)
      (huniform.admits_write mode) (huniform.admitsReceiving mode) state hkind

/-- **Opening** does the same in either form, if learning the profile does. -/
theorem establishBy_same {learn : Mode → Action σ ConnectionProfile}
    (hlearn : Agreeing kind learn) (hkind : kind state.stream) :
    connection.establishBy learn .awaited state = connection.establishBy learn .blocking state := by
  refine Action.bind_congr rfl fun _ made hbegin => ?_
  have hlasting := huniform.lasting_kind
  obtain ⟨-, created, hcreate, hopen, rfl⟩ := ok_of_begin hbegin
  have hcreated : kind created.stream :=
    (hlasting.keeps_call fun _ hkind => huniform.create hkind _).of_ok hcreate hkind
  refine Action.bind_congr (Action.concluding_congr (Action.bind_congr
    (call_same hopen (huniform.connectSame hcreated)) fun _ connected hconnect => ?_))
    fun _ _ _ => rfl
  have hconnected : kind connected.stream :=
    (hlasting.keeps_call fun _ hkind => huniform.connect hkind _).of_ok hconnect hcreated
  exact Action.bind_congr (hlearn.same hconnected) fun _ _ _ => rfl

/-- **Every operation** has the same account in either form. -/
theorem account_inMode {learn : Mode → Action σ ConnectionProfile} (hlearn : Agreeing kind learn)
    (operation : Operation) (hkind : kind state.stream) :
    (operation.performBy connection learn).account state =
      ((operation.inMode .blocking).performBy connection learn).account state := by
  have hsame : ∀ {β : Type} (form : Mode → Action σ β) (mode : Mode),
      form .awaited state = form .blocking state →
      (form mode).account state = (form .blocking).account state := by
    intro β form mode h
    cases mode with
    | blocking => rfl
    | awaited => exact Action.account_congr h
  cases operation with
  | establish mode =>
    exact hsame (connection.establishBy learn) mode (huniform.establishBy_same hlearn hkind)
  | command mode message decode =>
    exact hsame (connection.command · message decode) mode
      (huniform.command_same message decode hkind)
  | send mode bytes requestId =>
    exact hsame (connection.send · bytes requestId) mode (huniform.send_same bytes requestId hkind)
  | receive mode responseTo =>
    exact hsame (connection.receive · responseTo) mode (huniform.receive_same responseTo hkind)
  | borrow size => rfl
  | drop buffer => rfl
  | close => rfl

/-- **A session** has the same transcript with all of its operations blocking. -/
theorem transcript_inMode {learn : Mode → Action σ ConnectionProfile} (hlearn : Agreeing kind learn)
    (operations : List Operation) (hkind : kind state.stream) :
    connection.transcript learn operations state =
      connection.transcript learn (operations.map (·.inMode .blocking)) state := by
  induction operations generalizing state with
  | nil => rfl
  | cons operation rest ih =>
    have hafter := huniform.keeps_performBy hlearn (operation.inMode .blocking) state hkind
    rw [← Action.state_account] at hafter
    rw [List.map_cons, transcript, transcript, huniform.account_inMode hlearn operation hkind,
      ih hafter]

end Transport.Uniform

namespace Connection

/-- A connection that learns the profile in its own way opens as it does. -/
theorem performBy_describe (connection : Connection σ) (operation : Operation) :
    operation.performBy connection connection.describe = operation.perform connection := by
  cases operation <;> rfl

/-- Its transcript is that of the session that is run. -/
theorem run_eq_transcript (connection : Connection σ) (operations : List Operation)
    (state : ConnectionStatus σ) :
    (connection.run operations state).1 =
      ((connection.transcript connection.describe operations state).map Account.state).getLastD
        state := by
  induction operations generalizing state with
  | nil => rfl
  | cons operation rest ih =>
    have hstep : (operation.step connection state).1 =
        ((operation.performBy connection connection.describe).account state).state := by
      rw [fst_step, performBy_describe, Action.state_account]
    rw [transcript, List.map_cons, List.getLastD_cons, ← hstep]
    exact ih _

end Connection

/-! ## Scripts without stalls -/

/-- An outcome that a call comes to by itself. -/
def Outcome.isPrompt : Outcome α → Bool
  | .done _ | .failed _ => true
  | .stalled => false

/-- What a read comes to an end over, with the connection as it is. -/
def Inbound.isPrompt : Inbound → Bool
  | .byte _ | .fail _ => true
  | .stall | .closing => false

/-- An item that puts no more than that before a reader. -/
def ScriptItem.isPrompt : ScriptItem → Bool
  | .raw _ | .message _ | .fail _ => true
  | .stall | .closing => false

/-- A turn that a write comes to an end over, with the connection as it is. -/
def WriteTurn.isPrompt : WriteTurn → Bool
  | .stall => false
  | .fail _ => true
  | .accept replies closes => !closes && replies.all ScriptItem.isPrompt

namespace ScriptedPeer

/-- A peer whose script neither stalls nor closes the connection in the midst of a call. -/
structure IsPrompt (peer : ScriptedPeer) : Prop where
  connecting : peer.connecting.outcome.isPrompt = true
  turns : peer.turns.all WriteTurn.isPrompt = true
  inbound : peer.inbound.all Inbound.isPrompt = true

/-- An answer that a call comes to by itself with the connection as it is, and a peer that goes on
in this way. -/
structure Meets (met : Answer α × ScriptedPeer) : Prop where
  closes : met.1.closes = false
  outcome : met.1.outcome.isPrompt = true
  peer : met.2.IsPrompt

/-- What does not stall is the same in either form. -/
theorem settle_of_isPrompt {answer : Answer α} (h : answer.outcome.isPrompt = true)
    (mode : Mode) : settle mode answer = answer := by
  obtain ⟨closes, outcome⟩ := answer
  cases outcome with
  | stalled => cases h
  | done value => cases mode <;> rfl
  | failed failure => cases mode <;> rfl

theorem all_itemInbound {item : ScriptItem} (h : item.isPrompt = true) (lastRequest : UInt32) :
    (itemInbound lastRequest item).all Inbound.isPrompt = true := by
  have hbytes : ∀ bytes : Bytes, (bytes.map Inbound.byte).all Inbound.isPrompt = true := by
    intro bytes
    refine List.all_eq_true.mpr fun entry hmem => ?_
    obtain ⟨byte, -, rfl⟩ := List.mem_map.mp hmem
    rfl
  cases item with
  | raw bytes => exact hbytes bytes
  | message message => exact hbytes _
  | fail failure => rfl
  | stall => cases h
  | closing => cases h

theorem IsPrompt.push {peer : ScriptedPeer} (h : peer.IsPrompt) {items : List ScriptItem}
    (hitems : items.all ScriptItem.isPrompt = true) : (peer.push items).IsPrompt where
  connecting := h.connecting
  turns := h.turns
  inbound := by
    unfold ScriptedPeer.push
    rw [List.all_append, h.inbound, Bool.true_and]
    refine List.all_eq_true.mpr fun entry hmem => ?_
    obtain ⟨item, hitem, hentry⟩ := List.mem_flatMap.mp hmem
    have hprompt := all_itemInbound (List.all_eq_true.mp hitems item hitem) peer.lastRequest
    exact List.all_eq_true.mp hprompt entry hentry

theorem IsPrompt.write {peer : ScriptedPeer} (h : peer.IsPrompt) (bytes : Bytes) :
    Meets (ScriptedPeer.write bytes peer) := by
  have hrest : ∀ turns : List WriteTurn, turns.all WriteTurn.isPrompt = true →
      IsPrompt { peer with turns } := fun _ hturns => ⟨h.connecting, hturns, h.inbound⟩
  have hturns := h.turns
  unfold ScriptedPeer.write
  split
  · exact ⟨rfl, rfl, h⟩
  · cases hscript : peer.turns with
    | nil =>
      have hkept : IsPrompt ({ peer with turns := [] }.keep bytes) := ⟨h.connecting, rfl, h.inbound⟩
      exact ⟨rfl, rfl, hkept.push rfl⟩
    | cons turn rest =>
      rw [hscript, List.all_cons, Bool.and_eq_true] at hturns
      obtain ⟨hturn, hturns⟩ := hturns
      cases turn with
      | stall => cases hturn
      | fail failure => exact ⟨rfl, rfl, hrest rest hturns⟩
      | accept replies closes =>
        obtain ⟨hcloses, hreplies⟩ := Bool.and_eq_true_iff.mp hturn
        have hkept : IsPrompt ({ peer with turns := rest }.keep bytes) :=
          ⟨h.connecting, hturns, h.inbound⟩
        exact ⟨Bool.not_eq_true' _ ▸ hcloses, rfl, hkept.push hreplies⟩

theorem IsPrompt.read {peer : ScriptedPeer} (h : peer.IsPrompt) (count : Nat) :
    Meets (ScriptedPeer.read count peer) := by
  have hrest : ∀ inbound : List Inbound, inbound.all Inbound.isPrompt = true →
      IsPrompt { peer with inbound } := fun _ hinbound => ⟨h.connecting, h.turns, hinbound⟩
  have hinbound := h.inbound
  unfold ScriptedPeer.read
  split
  · exact ⟨rfl, rfl, h⟩
  · cases hscript : peer.inbound with
    | nil => exact ⟨rfl, rfl, h⟩
    | cons item rest =>
      rw [hscript, List.all_cons, Bool.and_eq_true] at hinbound
      obtain ⟨hitem, hrestPrompt⟩ := hinbound
      cases item with
      | stall => cases hitem
      | closing => cases hitem
      | fail failure => exact ⟨rfl, rfl, hrest rest hrestPrompt⟩
      | byte byte =>
        refine ⟨rfl, rfl, hrest _ (List.all_eq_true.mpr fun entry hmem => ?_)⟩
        rw [← hscript] at hmem
        exact List.all_eq_true.mp h.inbound entry (List.mem_of_mem_drop hmem)

/-- **A script without stalls and closings** makes a uniform peer. -/
theorem uniform (lendsSpares : Bool) : (transport lendsSpares).Uniform IsPrompt where
  write h mode bytes := by
    have hmeets := h.write bytes
    have hsettle := settle_of_isPrompt hmeets.outcome mode
    exact ⟨(congrArg Answer.closes hsettle).trans hmeets.closes, hmeets.peer⟩
  read h mode count := by
    have hmeets := h.read count
    have hsettle := settle_of_isPrompt hmeets.outcome mode
    exact ⟨(congrArg Answer.closes hsettle).trans hmeets.closes, hmeets.peer⟩
  create h _ := h
  connect h _ := h
  close h := ⟨h.connecting, h.turns, h.inbound⟩
  connectSame {peer} h := by
    have hsettle := settle_of_isPrompt h.connecting
    exact congrArg (·, peer) ((hsettle .awaited).trans (hsettle .blocking).symm)
  writeSame {peer} h bytes := by
    have hsettle := settle_of_isPrompt (h.write bytes).outcome
    exact congrArg (·, (ScriptedPeer.write bytes peer).2)
      ((hsettle .awaited).trans (hsettle .blocking).symm)
  readSame {peer} h count := by
    have hsettle := settle_of_isPrompt (h.read count).outcome
    exact congrArg (·, (ScriptedPeer.read count peer).2)
      ((hsettle .awaited).trans (hsettle .blocking).symm)

end ScriptedPeer

/-- **Both forms do the same.** Over a uniform transport, sessions that differ in the forms of their
operations only have the same transcript, however the connection learns the profile of its server,
if the two forms of that agree. Those of its own way do, so such sessions leave it in the same
state. -/
theorem transcripts_agree {connection : Connection σ} {kind : σ → Prop}
    (huniform : connection.transport.Uniform kind) {operations others : List Operation}
    (hforms : operations.map (·.inMode .blocking) = others.map (·.inMode .blocking)) {stream : σ}
    (hkind : kind stream) (counters : Counters) :
    (∀ {learn : Mode → Action σ ConnectionProfile}, Agreeing kind learn →
      connection.transcript learn operations (connection.start stream counters) =
        connection.transcript learn others (connection.start stream counters)) ∧
    Agreeing kind connection.describe ∧
    (connection.run operations (connection.start stream counters)).1 =
      (connection.run others (connection.start stream counters)).1 := by
  have hstart : kind (connection.start stream counters).stream := hkind
  have hagree : ∀ {learn : Mode → Action σ ConnectionProfile}, Agreeing kind learn →
      connection.transcript learn operations (connection.start stream counters) =
        connection.transcript learn others (connection.start stream counters) := by
    intro learn hlearn
    rw [huniform.transcript_inMode hlearn operations hstart, hforms,
      ← huniform.transcript_inMode hlearn others hstart]
  refine ⟨hagree, huniform.agreeing_describe, ?_⟩
  rw [run_eq_transcript, run_eq_transcript, hagree huniform.agreeing_describe]

/-- A connection to a scripted peer that asks the server for its profile. -/
def ScriptedPeer.asking : Connection ScriptedPeer :=
  { ScriptedPeer.connection with initializer := .handshake ⟨none, []⟩ }

/-- A peer that answers two commands with a success. -/
def ScriptedPeer.obliging : ScriptedPeer :=
  let success : ScriptedMessage :=
    { length := none, requestId := 9, responseTo := none, delta := 0, opcode := 2013,
      body := [0, 0, 0, 0, 0, 13, 0, 0, 0, 0x10, 0x6F, 0x6B, 0, 1, 0, 0, 0, 0], sent := none }
  (follow (answer (.done ())) (answer (.done ()))).pushTurns
    [.accept [.message success] false, .accept [.message success] false]

/-- Opening a connection, a ping and a read that fails, in mixed forms and all awaited. -/
theorem transcripts_agree_obliging :
    let ping : Command := .ofCommand 2 "app" [("ping", .int32 1)]
    let start := ScriptedPeer.asking.start .obliging .initial
    ScriptedPeer.asking.transcript ScriptedPeer.asking.describe
        [.establish .blocking, .command .awaited ping RawDocument.toDocument, .receive .blocking 0]
        start =
      ScriptedPeer.asking.transcript ScriptedPeer.asking.describe
        [.establish .awaited, .command .awaited ping RawDocument.toDocument, .receive .awaited 0]
        start ∧
    (ScriptedPeer.asking.transcript ScriptedPeer.asking.describe
      [.establish .blocking, .command .awaited ping RawDocument.toDocument, .receive .blocking 0]
      start).map (fun account => (account.result.isOk, account.state.phase)) =
      [(true, .opened), (true, .opened), (false, .closed)] := by
  have hprompt : ScriptedPeer.IsPrompt .obliging := ⟨rfl, rfl, rfl⟩
  obtain ⟨hagree, hdescribe, -⟩ := @transcripts_agree _ ScriptedPeer.asking _
    (ScriptedPeer.uniform true)
    [.establish .blocking,
      .command .awaited (.ofCommand 2 "app" [("ping", .int32 1)]) RawDocument.toDocument,
      .receive .blocking 0]
    [.establish .awaited,
      .command .awaited (.ofCommand 2 "app" [("ping", .int32 1)]) RawDocument.toDocument,
      .receive .awaited 0] rfl .obliging hprompt .initial
  exact ⟨hagree hdescribe, by decide +kernel⟩

end CommandLink
