import CommandLink.Connection.Plan
import CommandLink.Proofs.Connection.Delivery
import CommandLink.Proofs.Connection.LegacyReply
import CommandLink.Proofs.Connection.Lifecycle
import CommandLink.Proofs.Connection.Publication
import CommandLink.Proofs.Message.Outbound

/-!
# Opening by negotiation

A connection that asks its server opens if they come to an agreement, and only then: the server's
reply reports success, can be decoded, and advertises nothing or some compressor of the connection.
Where the stream makes no trouble, opening writes one message and no more, and then takes over all
that was agreed on, or closes the connection with nothing taken over (`opening_negotiated`).

Without trouble, opening comes down to one command and the taking over of what it gives
(`establish_of_connected`), and how a command ends is told by its reply
(`Supply.resultsFrom_of_reading`).
-/

namespace CommandLink

open Connection

variable {σ α : Type}

/-! ## What a reply makes of a command -/

/-- A result that a reply leads to: what its document decodes to, just if the document reports
success and can be decoded. -/
def ResultsFrom (reply : RawDocument) (decode : RawDocument → Except LinkError α)
    (state : ConnectionStatus σ) : EStateM.Result LinkError (ConnectionStatus σ) α → Prop
  | .ok value next =>
    reply.reportsSuccess = .ok true ∧ decode reply = .ok value ∧ state.Onward next
  | .error _ _ => ∀ value, reply.reportsSuccess = .ok true → decode reply ≠ .ok value

/-- What comes of a later state comes of an earlier one. -/
theorem ResultsFrom.of_onward {reply : RawDocument} {decode : RawDocument → Except LinkError α}
    {state mid : ConnectionStatus σ} {result : EStateM.Result LinkError (ConnectionStatus σ) α}
    (honward : state.Onward mid) (h : ResultsFrom reply decode mid result) :
    ResultsFrom reply decode state result := by
  cases result with
  | ok value next =>
    obtain ⟨hsuccess, hdecode, hnext⟩ := h
    exact ⟨hsuccess, hdecode, honward.trans hnext⟩
  | error fault next => exact h

/-- **A reply that was found** leads to what comes of its completion. -/
theorem Connection.resultsFrom_of_parse (connection : Connection σ) {dispatch : Dispatch}
    {response : Response} {reply : Reply}
    (hparse :
      Reply.parse response.header response.body.bytes dispatch.identity.requestId = .ok reply)
    (decode : RawDocument → Except LinkError α) (state : ConnectionStatus σ) :
    ResultsFrom reply.document decode state (connection.failing dispatch
      (Action.holding response.body (connection.complete dispatch response decode)) state) := by
  cases hresult : connection.failing dispatch
      (Action.holding response.body (connection.complete dispatch response decode)) state with
  | ok value next =>
    obtain ⟨completed, hcomplete, rfl⟩ := Action.ok_of_holding (ok_of_failing hresult)
    obtain ⟨other, hother, hsuccess, hdecode, rfl⟩ := ok_of_complete hcomplete
    cases hparse.symm.trans hother
    exact ⟨hsuccess, hdecode, .of_alike ((alike_tell state _ _).trans (.drop _ response.body))⟩
  | error fault next =>
    intro value hsuccess hdecode
    have hcomplete := @complete_of_passes _ _ connection dispatch response reply.document
      ⟨reply, hparse, rfl, hsuccess⟩ decode state
    rw [hdecode] at hcomplete
    rw [failing_eq, Action.concluding_of_ok (Action.holding_of_ok hcomplete)] at hresult
    cases hresult

namespace Supply

variable {connection : Connection σ} (supply : Supply connection.transport)
  {state : ConnectionStatus σ} {bytes frame rest body : Bytes} {stream : σ}
  {inbound : InboundHeader}

/-- A conversation whose bytes are written and whose reply lies ahead comes down to the completion
of that, with no signal given before but the write. -/
theorem converse_of_reading (mode : Mode) (dispatch : Dispatch) {limit : Nat}
    (decode : RawDocument → Except LinkError α) (hopen : state.phase ≠ .closed)
    (hwrite : connection.transport.write mode bytes state.stream = (⟨false, .done ()⟩, stream))
    (hframe : IsMessage limit frame) (hahead : supply.ahead stream = frame ++ rest)
    (hreading : connection.reading limit frame = .ok (inbound, body)) :
    ∃ loan received, state.Onward received ∧
      received.signals = state.signals ++ [.wrote bytes] ∧
      connection.converse mode dispatch bytes limit decode state =
        connection.failing dispatch (Action.holding ⟨body, loan⟩
          (connection.complete dispatch ⟨inbound, body, loan⟩ decode)) received := by
  let written := ({ state with stream } : ConnectionStatus σ).note (.wrote bytes)
  have hcall : connection.call mode .writing (.wrote bytes) (connection.transport.write mode bytes)
      state = .ok () written := call_of_answered hopen hwrite
  obtain ⟨loan, received, hreceive, honward, -⟩ :=
    @receiveWithin_of_reading _ _ supply written mode _ _ _ _ _ hopen hframe hahead hreading
  have hwritten : state.Onward written := ⟨_, _, _, rfl⟩
  have hsignals := connection.signals_receiveWithin mode limit written
  rw [Action.after_of_ok hreceive] at hsignals
  refine ⟨loan, received, hwritten.trans honward,
    hsignals.trans (ConnectionStatus.signals_note state _), ?_⟩
  unfold converse
  rw [failing_eq, failing_eq]
  exact Action.concluding_congr ((Action.bind_of_ok hcall).trans (Action.bind_of_ok hreceive))

section Commands

variable (mode : Mode) {message : Command} (decode : RawDocument → Except LinkError α)
  (husable : state.Usable) (hbytes : connection.outgoing state message = .ok bytes)
  (hwrite : connection.transport.write mode bytes state.stream = (⟨false, .done ()⟩, stream))
  (hframe : IsMessage state.profile.limits.messageSize frame)
  (hahead : supply.ahead stream = frame ++ rest)
  (hreading : connection.reading state.profile.limits.messageSize frame = .ok (inbound, body))

include husable hbytes hwrite hframe hahead hreading

/-- A command whose bytes are written and whose reply lies ahead comes down to the completion of
that, with no signal given before but its start and the write. -/
theorem command_of_reading :
    let dispatch := connection.dispatch state message
    ∃ loan received, state.Onward received ∧
      received.signals =
        state.signals ++ dispatch.heard [dispatch.identity.started message] ++ [.wrote bytes] ∧
      connection.command mode message decode state =
        connection.failing dispatch (Action.holding ⟨body, loan⟩
          (connection.complete dispatch ⟨inbound, body, loan⟩ decode)) received := by
  intro dispatch
  let told := state.tell dispatch.audience (dispatch.identity.started message)
  have htold : state.Alike told := alike_tell state _ _
  have hphase : told.phase = state.phase := phase_tell state _ _
  have hstream : told.stream = state.stream := by
    obtain ⟨_, _, hsame⟩ := htold
    rw [hsame]
  obtain ⟨loan, received, hreceived, hsignals, hconverse⟩ :=
    supply.converse_of_reading mode dispatch decode (by rw [hphase]; exact husable.notClosed)
      (by rw [hstream]; exact hwrite) hframe hahead hreading
  rw [dispatch.signals_tell] at hsignals
  refine ⟨loan, received, (ConnectionStatus.Onward.of_alike htold).trans hreceived, hsignals, ?_⟩
  rw [command_of_outgoing husable hbytes, hconverse]

/-- **A reply that lies ahead** leads to what comes of the command that it answers. -/
theorem resultsFrom_of_reading {reply : Reply}
    (hparse : Reply.parse inbound body message.requestId = .ok reply) :
    ResultsFrom reply.document decode state (connection.command mode message decode state) := by
  obtain ⟨loan, received, hreceived, -, hcommand⟩ :=
    supply.command_of_reading mode decode husable hbytes hwrite hframe hahead hreading
  rw [hcommand]
  exact .of_onward hreceived (connection.resultsFrom_of_parse hparse decode received)

end Commands

end Supply

/-! ## Opening without trouble -/

namespace Connection

variable {connection : Connection σ} {state : ConnectionStatus σ}

/-- A stream that is made, connected, and takes a message, all without trouble: what it is after
each of these. -/
structure Welcomes (connection : Connection σ) (mode : Mode) (bytes : Bytes)
    (stream made connected welcomed : σ) : Prop where
  create : connection.transport.create connection.address stream = (⟨false, .done ()⟩, made)
  connect : connection.transport.connect mode made = (⟨false, .done ()⟩, connected)
  write : connection.transport.write mode bytes connected = (⟨false, .done ()⟩, welcomed)

/-- Ask the server with a command, and take over the profile that it tells. -/
def ask (connection : Connection σ) (mode : Mode) (message : Command) : Action σ Unit := do
  let reply ← connection.command mode message RawDocument.toDocument
  connection.adopt ((← get).profile.ofReply reply)

/-- Ask the server, which closes the connection if it fails, and log that the connection is open. -/
def negotiate (connection : Connection σ) (mode : Mode) (message : Command) : Action σ Unit := do
  connection.closingOnFailure (connection.ask mode message)
  modify fun state => state.log .info "opened connection" (openedFields state)

/-- A connection that is about to ask its server: the stream is connected and a number was taken. -/
def asking (state : ConnectionStatus σ) (stream : σ) : ConnectionStatus σ :=
  ({ state with
      phase := .opening
      hasStream := true
      stream
      counters := state.counters.takeRequest.2 }.note .created).note .connected

theorem usable_asking (state : ConnectionStatus σ) (stream : σ) : (asking state stream).Usable :=
  ⟨nofun, rfl⟩

/-- What goes out for a command that is put into bytes before there is a compressor for sending. -/
theorem outgoing_of_encode {message : Command} {out : OutboundMessage}
    (hplain : state.sendCompressor = none)
    (hencode : message.encode state.profile.limits = .ok out) :
    connection.outgoing state message = .ok out.bytes := by
  unfold outgoing
  simp only [bind, Except.bind, hencode, hplain]

/-- A document and a compressor that a connection and its server agree on: the server's reply
reports success and is the document, and the compressor is chosen from those that it advertises. -/
structure Agrees (connection : Connection σ) (reply : RawDocument) (document : Document)
    (chosen : Option Compressor) : Prop where
  success : reply.reportsSuccess = .ok true
  decoded : reply.toDocument = .ok document
  selected : connection.compressors.select (ConnectionProfile.advertised document) = .ok chosen

/-- **What asking leads to**, by how the command ends: an open connection with all that was agreed
on, or nothing taken over. -/
theorem settled_of_ask {mode : Mode} {message : Command} {reply : RawDocument}
    (hopening : state.phase = .opening)
    (hcommand : ResultsFrom reply RawDocument.toDocument state
      (connection.command mode message RawDocument.toDocument state)) :
    match connection.ask mode message state with
    | .ok _ next => ∃ document chosen, connection.Agrees reply document chosen ∧
        next.phase = .opened ∧ next.profile = state.profile.ofReply document ∧
        next.sendCompressor = chosen
    | .error _ next => (∀ document chosen, ¬ connection.Agrees reply document chosen) ∧
        next.profile = state.profile ∧ next.sendCompressor = state.sendCompressor ∧
        next.hasStream = state.hasStream := by
  have hintact := connection.intact_of_command mode message RawDocument.toDocument state
  unfold ask
  cases hresult : connection.command mode message RawDocument.toDocument state with
  | error fault failed =>
    rw [hresult] at hcommand
    rw [Action.after_of_error hresult] at hintact
    rw [Action.bind_of_error hresult]
    exact ⟨fun document chosen h => hcommand document h.success h.decoded, hintact.profile,
      hintact.sendCompressor, hintact.steady.1⟩
  | ok document learned =>
    rw [hresult] at hcommand
    rw [Action.after_of_ok hresult] at hintact
    rw [Action.bind_of_ok hresult, Action.get_bind]
    obtain ⟨hsuccess, hdocument, honward⟩ := hcommand
    cases hselect : connection.compressors.select (ConnectionProfile.advertised document) with
    | error fault =>
      rw [adopt_of_select_error hselect]
      refine ⟨fun other chosen h => ?_, hintact.profile, hintact.sendCompressor, hintact.steady.1⟩
      cases hdocument.symm.trans h.decoded
      cases hselect.symm.trans h.selected
    | ok chosen =>
      have hlearned : learned.phase = .opening := by
        obtain ⟨_, _, _, rfl⟩ := honward
        exact hopening
      rw [adopt_of_select hlearned hselect, hintact.profile]
      exact ⟨document, chosen, ⟨hsuccess, hdocument, hselect⟩, rfl, rfl, rfl⟩

section Establishing

variable {mode : Mode} {handshake : Handshake} {bytes : Bytes} {made connected welcomed : σ}
  (hphase : state.phase = .unopened)
  (hinitializer : connection.initializer = .handshake handshake)

include hphase hinitializer

/-- **Opening a stream that is made and connected** without trouble comes down to asking the server.
-/
theorem establish_of_connected
    (hcreate : connection.transport.create connection.address state.stream =
      (⟨false, .done ()⟩, made))
    (hconnect : connection.transport.connect mode made = (⟨false, .done ()⟩, connected)) :
    connection.establish mode state =
      connection.negotiate mode (handshake.message state.counters.request)
        (asking state connected) := by
  have hconnected : connection.call mode .opening .connected (connection.transport.connect mode)
      (({ state with phase := .opening, hasStream := true, stream := made } :
        ConnectionStatus σ).note .created) =
        .ok () ((({ state with phase := .opening, hasStream := true, stream := connected } :
          ConnectionStatus σ).note .created).note .connected) :=
    call_of_answered nofun hconnect
  have hdescribe : (connection.describe mode >>= connection.adopt)
        ((({ state with phase := .opening, hasStream := true, stream := connected } :
          ConnectionStatus σ).note .created).note .connected) =
      connection.ask mode (handshake.message state.counters.request) (asking state connected) := by
    unfold describe ask
    rw [hinitializer]
    simp only [bind_assoc, pure_bind]
    rfl
  unfold establish
  refine (Action.bind_of_ok (begin_of_created hphase hcreate)).trans
    (Action.bind_congr ?_ fun _ _ _ => rfl)
  exact Action.concluding_congr ((Action.bind_of_ok hconnected).trans hdescribe)

variable (hwelcomes : connection.Welcomes mode bytes state.stream made connected welcomed)

include hwelcomes

variable (hbytes : connection.outgoing (asking state connected)
  (handshake.message state.counters.request) = .ok bytes)

include hbytes

/-- **All that opening writes** is the command that asks the server. -/
theorem writes_of_establish :
    ((connection.establish mode).after state).writes = state.writes ++ [bytes] := by
  let message := handshake.message state.counters.request
  have husable := usable_asking state connected
  have hasking : (asking state connected).writes = state.writes := by
    simp only [asking, ConnectionStatus.writes, ConnectionStatus.entries_note, Happening.written?,
      Option.toList_none, List.append_nil]
    rfl
  have hlasting := connection.lasting_unwritten
  -- once the command has ended, only what it gave is taken over
  have hasked : Unwritten
      ((connection.command mode message RawDocument.toDocument).after (asking state connected))
      ((connection.ask mode message).after (asking state connected)) := by
    refine hlasting.after_bind (.refl _) fun reply learned _ => ?_
    refine hlasting.keeps_bind hlasting.keeps_get (fun current => ?_) learned
    exact hlasting.keeps_adopt _ (fun before _ => (Entered.refl before).of_journal rfl)
      fun before => (Entered.refl before).of_journal rfl
  have hconcluded := hlasting.after_concluding hasked hlasting.refl fun _ => hlasting.shut
  have hnegotiated : Unwritten
      ((connection.command mode message RawDocument.toDocument).after (asking state connected))
      ((connection.negotiate mode message).after (asking state connected)) :=
    hlasting.after_bind hconcluded fun _ opened _ => hlasting.log opened _ _ _
  rw [← hasking, ← writes_of_outgoing husable hbytes]
  unfold Action.after
  rw [establish_of_connected hphase hinitializer hwelcomes.create hwelcomes.connect]
  exact hnegotiated.entries_eq

/-- **What opening leads to** if its stream makes no trouble and a reply lies ahead. -/
theorem settled_of_establish (supply : Supply connection.transport) {rest : Bytes}
    {reply : LegacyReply}
    (hreply : reply.Answers state.counters.request state.profile.limits.messageSize)
    (hlimit : state.profile.limits.messageSize < UInt32.size)
    (hahead : supply.ahead welcomed = reply.bytes ++ rest) :
    match connection.establish mode state with
    | .ok _ next => ∃ document chosen, connection.Agrees reply.document document chosen ∧
        next.phase = .opened ∧ next.profile = state.profile.ofReply document ∧
        next.sendCompressor = chosen
    | .error _ next => (∀ document chosen, ¬ connection.Agrees reply.document document chosen) ∧
        next.profile = state.profile ∧ next.sendCompressor = state.sendCompressor ∧
        next.hasStream = true := by
  have hparse := LegacyReply.parse_body hreply.count
  rw [hreply.responseTo] at hparse
  have hcommand := supply.resultsFrom_of_reading mode RawDocument.toDocument
    (usable_asking state connected) hbytes hwelcomes.write
    (LegacyReply.isMessage_bytes hreply.within hlimit) hahead (reply.reading_bytes connection _)
    hparse
  have hasked := settled_of_ask rfl hcommand
  rw [establish_of_connected hphase hinitializer hwelcomes.create hwelcomes.connect]
  unfold negotiate
  cases hresult : connection.ask mode (handshake.message state.counters.request)
      (asking state connected) with
  | ok result opened =>
    rw [hresult] at hasked
    rw [Action.bind_of_ok (closingOnFailure_of_ok hresult)]
    exact hasked
  | error fault failed =>
    rw [hresult] at hasked
    rw [Action.bind_of_error (closingOnFailure_of_error hresult)]
    dsimp only
    rw [profile_shut, sendCompressor_shut, hasStream_shut]
    exact hasked

end Establishing

end Connection

/-- The command that offers compressors lists them in their order, if there are any. -/
theorem Handshake.command_of_choices (applicationName : Option String)
    (choices : List CompressorChoice) :
    let handshake : Handshake := ⟨applicationName, choices.map (·.method.name)⟩
    handshake.command =
      [("isMaster", .int32 1), ("client", .document handshake.client)] ++
        if choices = [] then []
        else [("compression", .array (choices.map fun choice => .string choice.method.name))] := by
  intro handshake
  cases choices with
  | nil => rfl
  | cons choice others =>
    rw [command, if_neg (List.cons_ne_nil choice others), List.map_map]
    rfl

/-- **Opening is negotiated.** Let a connection be built from any plan without an initializer of its
own, let the opening command fit the limits that are assumed at first, and let the stream open and
take it without trouble and then serve a valid legacy reply to it within these limits. Opening, in
either mode, writes the opening command and no more: a legacy query of `admin.$cmd` that offers the
names of just the compressors of the plan, in their order. It succeeds just if the reply reports
success, can be decoded, and the compressors that it advertises can be chosen from. Then the
connection is open, with the profile that the reply tells and the compressor that was chosen, which
is none just where none is advertised. Otherwise it is closed, its stream closed once, and neither
profile nor compressor has been taken over. -/
theorem opening_negotiated {plan : ConnectionPlan σ} {connection : Connection σ}
    (hbuild : plan.build = .ok connection) (hdefault : plan.initializer = none)
    {counters : Counters} {out : OutboundMessage}
    (hencode : (Handshake.message ⟨plan.applicationName, plan.compressors.map (·.method.name)⟩
      counters.request).encode .initial = .ok out)
    (supply : Supply connection.transport) {mode : Mode} {stream made connected welcomed : σ}
    (hwelcomes : connection.Welcomes mode out.bytes stream made connected welcomed)
    {reply : LegacyReply} (hreply : reply.Answers counters.request 48000000) {rest : Bytes}
    (hahead : supply.ahead welcomed = reply.bytes ++ rest) :
    let state := connection.start stream counters
    ((connection.establish mode).after state).writes = [out.bytes] ∧
    (∃ client document,
      Document.encode? ([("isMaster", .int32 1), ("client", .document client)] ++
        if plan.compressors = [] then []
        else [("compression", .array (plan.compressors.map fun choice =>
          .string choice.method.name))]) = some document ∧
      out.bytes = Header.encode ⟨UInt32.ofNat out.bytes.length, counters.request, 0, 2004⟩ ++
        (Bytes.ofInt32 0 ++ Bytes.ofText "admin.$cmd" ++ [0] ++ Bytes.ofInt32 0 ++
          Bytes.ofInt32 (-1) ++ document)) ∧
    ((∃ next, connection.establish mode state = .ok () next) ↔
      ∃ document chosen, connection.Agrees reply.document document chosen) ∧
    (∀ next, connection.establish mode state = .ok () next →
      ∃ document chosen, connection.Agrees reply.document document chosen ∧
        next.phase = .opened ∧ next.profile = state.profile.ofReply document ∧
        next.sendCompressor = chosen ∧
        (chosen = none ↔ ConnectionProfile.advertised document = [])) ∧
    ∀ error next, connection.establish mode state = .error error next →
      next.phase = .closed ∧ next.closings = 1 ∧ next.profile = state.profile ∧
      next.sendCompressor = none := by
  intro state
  have hinitializer : connection.initializer =
      .handshake ⟨plan.applicationName, plan.compressors.map (·.method.name)⟩ := by
    unfold ConnectionPlan.build at hbuild
    split at hbuild
    · cases hbuild
    · cases hbuild
      rw [hdefault, Option.getD_none, CompressorSelection.names_ofChoices]
  have hbytes := @outgoing_of_encode _ connection (asking state connected) _ _ rfl hencode
  have hsettled := settled_of_establish rfl hinitializer hwelcomes hbytes supply hreply
    (show 48000000 < UInt32.size by decide) hahead
  have horder : InOrder ((connection.establish mode).after state) :=
    connection.inOrder_of_establish mode ⟨.unmade, fun _ => rfl, fun _ => rfl⟩
  refine ⟨writes_of_establish rfl hinitializer hwelcomes hbytes, ?_, ?_⟩
  · obtain ⟨document, hdocument, -, hout, -⟩ := Command.encode_eq_ok hencode
    refine ⟨Handshake.client ⟨plan.applicationName, plan.compressors.map (·.method.name)⟩, document,
      ?_, hout⟩
    rw [← Handshake.command_of_choices]
    exact hdocument
  · cases hresult : connection.establish mode state with
    | ok result next =>
      rw [hresult] at hsettled
      obtain ⟨document, chosen, hagrees, hopened, hprofile, hchosen⟩ := hsettled
      refine ⟨⟨fun _ => ⟨document, chosen, hagrees⟩, fun _ => ⟨next, rfl⟩⟩, ?_, ?_⟩
      · rintro _ ⟨⟩
        exact ⟨document, chosen, hagrees, hopened, hprofile, hchosen,
          CompressorSelection.eq_none_iff_of_select hagrees.selected⟩
      · rintro _ _ ⟨⟩
    | error fault next =>
      rw [hresult] at hsettled
      rw [Action.after_of_error hresult] at horder
      obtain ⟨hnone, hprofile, hplain, hstream⟩ := hsettled
      have hclosed : next.phase = .closed := by
        rcases closed_of_establish hresult with hclosed | ⟨hbefore, -⟩
        · exact hclosed
        · rcases hbefore with hphase | hphase <;> cases hphase
      have hclosings := horder.closings_eq
      rw [if_pos ⟨hclosed, hstream⟩] at hclosings
      refine ⟨⟨?_, ?_⟩, ?_, ?_⟩
      · rintro ⟨_, ⟨⟩⟩
      · rintro ⟨document, chosen, hagrees⟩
        exact absurd hagrees (hnone document chosen)
      · rintro _ ⟨⟩
      · rintro _ _ ⟨⟩
        exact ⟨hclosed, hclosings, hprofile, hplain⟩

/-- A plan for a connection to a ready peer that offers two compressors. -/
def ReadyPeer.plan : ConnectionPlan ReadyPeer where
  server := .ofAddress ⟨"mock", 27017⟩
  transport := some transport
  compressors := [{ method := .zlib }, { method := .snappy }]

/-- A reply to the opening command that reports success and advertises the second of them. -/
def ReadyPeer.agreement : LegacyReply where
  requestId := 9
  responseTo := 1
  flags := 8
  cursor := 0
  startingFrom := 0
  count := 1
  document := ⟨(Document.encode?
    [("ok", .int32 1), ("compression", .array [.string "snappy"])]).getD [], by decide +kernel⟩
  more := []

/-- A connection that gets this reply opens with that compressor for sending. -/
theorem opening_negotiated_snappy :
    ∃ connection next, ReadyPeer.plan.build = .ok connection ∧
      connection.establish .awaited
        (connection.start (.having ReadyPeer.agreement.bytes) .initial) = .ok () next ∧
      next.phase = .opened ∧ next.sendCompressor = some ⟨.snappy, 0⟩ := by
  have hfits : ((Handshake.message ⟨none, ["zlib", "snappy"]⟩ 1).encode .initial).isOk = true := by
    decide +kernel
  cases hencode : (Handshake.message ⟨none, ["zlib", "snappy"]⟩ 1).encode .initial with
  | error fault =>
    rw [hencode] at hfits
    cases hfits
  | ok out =>
    obtain ⟨-, -, hopens, hopened, -⟩ := @opening_negotiated _ ReadyPeer.plan _ rfl rfl .initial out
      hencode ReadyPeer.supply .awaited (.having ReadyPeer.agreement.bytes) _ _ _ ⟨rfl, rfl, rfl⟩
      ReadyPeer.agreement ⟨rfl, by decide, by decide⟩ [] rfl
    obtain ⟨next, hnext⟩ := hopens.mpr ⟨_, some ⟨.snappy, 0⟩, rfl, rfl, rfl⟩
    obtain ⟨document, chosen, hagrees, hphase, -, hchosen, -⟩ := hopened next hnext
    have hsnappy : chosen = some ⟨.snappy, 0⟩ := by
      obtain ⟨-, hdecoded, hselected⟩ := hagrees
      cases hdecoded
      cases hselected
      rfl
    exact ⟨_, next, rfl, hnext, hphase, hchosen.trans hsnappy⟩

end CommandLink
