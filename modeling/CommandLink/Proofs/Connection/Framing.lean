import CommandLink.Proofs.Connection.Negotiation
import CommandLink.Proofs.Connection.Twins
import CommandLink.Proofs.Message.ReplyLayout

/-!
# The framing of a reply

One document can reach a connection as a reply in many framings: laid out in either form, with
anything around it, sent plain or in an envelope. What a command comes to is told by the document
alone (`endsAlike_complete`), so over streams that serve it in different framings the command ends
alike (`framing_irrelevant`).
-/

namespace CommandLink

open Connection

variable {σ α : Type}

/-! ## Counterparts -/

/-- States that are alike besides their streams, buffers and journals, and in whose journals the
same signals stand. -/
def ConnectionStatus.Counterpart (state other : ConnectionStatus σ) : Prop :=
  state.Onward other ∧ other.signals = state.signals

namespace ConnectionStatus

variable {state other : ConnectionStatus σ}

theorem Onward.symm (h : state.Onward other) : other.Onward state := by
  obtain ⟨_, _, _, rfl⟩ := h
  exact ⟨state.stream, state.ledger, state.journal, rfl⟩

namespace Counterpart

theorem tell (h : state.Counterpart other) (listener : Option Listener) (event : CommandEvent) :
    (state.tell listener event).Counterpart (other.tell listener event) := by
  have htold := (Onward.of_alike (alike_tell state listener event)).symm
  refine ⟨htold.trans (h.1.trans (.of_alike (alike_tell other listener event))), ?_⟩
  rw [signals_tell, signals_tell, h.2]

theorem drop (h : state.Counterpart other) (buffer otherBuffer : Buffer) :
    (state.drop buffer).Counterpart (other.drop otherBuffer) :=
  ⟨(Onward.of_alike (.drop state buffer)).symm.trans (h.1.trans (.of_alike (.drop other otherBuffer))),
    h.2⟩

theorem shut (h : state.Counterpart other) (connection : Connection σ) :
    (connection.shut state).Counterpart (connection.shut other) := by
  obtain ⟨⟨_, _, _, rfl⟩, hsignals⟩ := h
  refine ⟨?_, by rw [signals_shut, signals_shut, hsignals]⟩
  obtain ⟨_, _, hshut, -⟩ := connection.shut_eq state
  obtain ⟨_, _, hother, -⟩ := connection.shut_eq { state with stream := _, ledger := _, journal := _ }
  rw [hshut, hother]
  exact ⟨_, _, _, rfl⟩

end Counterpart

end ConnectionStatus

/-! ## What a reply comes to -/

namespace Connection

variable {connection : Connection σ} {state other : ConnectionStatus σ}

/-- **Completing a command** ends alike whatever the document was found in. -/
theorem endsAlike_complete (connection : Connection σ) {dispatch : Dispatch}
    {response otherResponse : Response} {document : RawDocument}
    (hparse : Reply.parse response.header response.body.bytes dispatch.identity.requestId =
      .ok ⟨response.header, document⟩)
    (hother : Reply.parse otherResponse.header otherResponse.body.bytes
      dispatch.identity.requestId = .ok ⟨otherResponse.header, document⟩)
    (decode : RawDocument → Except LinkError α) (h : state.Counterpart other) :
    EndsAlike ConnectionStatus.Counterpart (connection.complete dispatch response decode state)
      (connection.complete dispatch otherResponse decode other) := by
  unfold complete
  rw [Action.ofResult_bind_of_ok hparse, Action.ofResult_bind_of_ok hother]
  refine (EndsAlike.ofResult document.reportsSuccess h).bind ?_
  intro success mid otherMid _ hmid
  cases success with
  | true => exact EndsAlike.ofResult (decode document) (hmid.tell dispatch.audience _)
  | false =>
    refine (EndsAlike.ofResult document.toDocument hmid).bind ?_
    intro refusal _ _ _ hrefused
    exact .error _ hrefused

/-- So does all that is done once the reply is there: its buffer is let go of, and a failure is told
and closes the connection. -/
theorem endsAlike_failing (connection : Connection σ) {dispatch : Dispatch}
    {response otherResponse : Response} {document : RawDocument}
    (hparse : Reply.parse response.header response.body.bytes dispatch.identity.requestId =
      .ok ⟨response.header, document⟩)
    (hother : Reply.parse otherResponse.header otherResponse.body.bytes
      dispatch.identity.requestId = .ok ⟨otherResponse.header, document⟩)
    (decode : RawDocument → Except LinkError α) (h : state.Counterpart other) :
    EndsAlike ConnectionStatus.Counterpart
      (connection.failing dispatch (.holding response.body
        (connection.complete dispatch response decode)) state)
      (connection.failing dispatch (.holding otherResponse.body
        (connection.complete dispatch otherResponse decode)) other) := by
  have hheld := (connection.endsAlike_complete hparse hother decode h).concluding
    (fun _ _ hmid => hmid.drop response.body otherResponse.body)
    fun _ _ _ hmid => hmid.drop response.body otherResponse.body
  exact hheld.concluding (fun _ _ => id) fun error _ _ hmid =>
    (hmid.tell dispatch.audience (dispatch.identity.failed error)).shut connection

end Connection

/-! ## Framings -/

/-- A message frames a document as the reply to a request. It holds the document in a valid layout
and answers the request. A length field can count it, and it can be received within the limit: it
fits, also out of its envelope, and in an envelope is what a compressor of the connection packed,
with a library whose work the library at hand undoes. -/
structure Shipment.Frames (shipment : Shipment) (selection : CompressorSelection) (limit : Nat)
    (requestId : UInt32) (document : RawDocument) : Prop where
  layout : ∃ layout : ReplyLayout, layout.IsValid ∧ shipment.opcode = layout.opcode ∧
    shipment.body = layout.body document
  responseTo : shipment.responseTo = requestId
  counted : shipment.bytes.length < UInt32.size ∧
    Header.size + shipment.body.length < UInt32.size
  received : ∃ packing, shipment.Fits selection packing limit ∧
    ∀ compressor packed, shipment.envelope = some (compressor, packed) →
      Unpacking.own.Undoes packing compressor

/-- A stream takes a message, and then a frame lies ahead on it. -/
def Supply.Serves {transport : Transport σ} (supply : Supply transport) (mode : Mode)
    (bytes frame : Bytes) (stream : σ) : Prop :=
  ∃ written rest, transport.write mode bytes stream = (⟨false, .done ()⟩, written) ∧
    supply.ahead written = frame ++ rest

namespace Supply

variable {connection : Connection σ} (supply : Supply connection.transport) {mode : Mode}
  {message : Command} {state : ConnectionStatus σ} {bytes : Bytes} {document : RawDocument}
  {shipment : Shipment}

/-- **A command whose reply frames a document** comes down to the completion of a response in which
that is found. -/
theorem command_of_frames (decode : RawDocument → Except LinkError α) (husable : state.Usable)
    (hbytes : connection.outgoing state message = .ok bytes)
    (hframes : shipment.Frames connection.compressors state.profile.limits.messageSize
      message.requestId document)
    (hserves : supply.Serves mode bytes shipment.bytes state.stream) :
    let dispatch := connection.dispatch state message
    ∃ response received, state.Onward received ∧
      received.signals =
        state.signals ++ dispatch.heard [dispatch.identity.started message] ++ [.wrote bytes] ∧
      Reply.parse response.header response.body.bytes message.requestId =
        .ok ⟨response.header, document⟩ ∧
      connection.command mode message decode state =
        connection.failing dispatch (.holding response.body
          (connection.complete dispatch response decode)) received := by
  obtain ⟨layout, hvalid, hopcode, hbody⟩ := hframes.layout
  obtain ⟨packing, hfits, hundoes⟩ := hframes.received
  obtain ⟨written, rest, hwrite, hahead⟩ := hserves
  obtain ⟨loan, received, honward, hsignals, hcommand⟩ :=
    supply.command_of_reading mode decode husable hbytes hwrite
      (Shipment.isMessage_bytes hframes.counted.1 hfits) hahead
      (Shipment.reading_bytes hframes.counted.2 hundoes hfits)
  have hparse : Reply.parse shipment.inbound shipment.body message.requestId =
      .ok ⟨shipment.inbound, document⟩ := by
    rw [hbody, ← hframes.responseTo]
    exact ReplyLayout.parse_body hvalid document hopcode
  exact ⟨_, received, honward, hsignals, hparse, hcommand⟩

end Supply

/-- **The framing of a reply is irrelevant.** Let the connection be usable, and let two streams each
take the message of a command and then serve the same document as its reply, in framings of their
own: laid out with any flags and anything after the document, with or without a checksum, or in the
legacy form behind any fixed fields that count a document, and either plain or in an envelope of any
compressor of the connection. Then the command, in either mode, ends alike over both: with the same
value or the same error, with the same events told, and in states that differ only in their streams,
their buffers and what else is in their journals. -/
theorem framing_irrelevant {connection : Connection σ} (supply : Supply connection.transport)
    (mode : Mode) (message : Command) (decode : RawDocument → Except LinkError α)
    {state : ConnectionStatus σ} (husable : state.Usable) {document : RawDocument}
    {first second : Shipment}
    (hfirst : first.Frames connection.compressors state.profile.limits.messageSize
      message.requestId document)
    (hsecond : second.Frames connection.compressors state.profile.limits.messageSize
      message.requestId document)
    {firstStream secondStream : σ}
    (hfirstServes : ∀ bytes, connection.outgoing state message = .ok bytes →
      supply.Serves mode bytes first.bytes firstStream)
    (hsecondServes : ∀ bytes, connection.outgoing state message = .ok bytes →
      supply.Serves mode bytes second.bytes secondStream) :
    EndsAlike ConnectionStatus.Counterpart
      (connection.command mode message decode { state with stream := firstStream })
      (connection.command mode message decode { state with stream := secondStream }) := by
  let one : ConnectionStatus σ := { state with stream := firstStream }
  let two : ConnectionStatus σ := { state with stream := secondStream }
  have hone : one.Usable := ⟨husable.notClosed, husable.hasStream⟩
  have htwo : two.Usable := ⟨husable.notClosed, husable.hasStream⟩
  have hsame : one.Onward two := ⟨_, _, _, rfl⟩
  cases hbytes : connection.outgoing state message with
  | error fault =>
    have houtgoing : connection.outgoing one message = .error fault := hbytes
    have hother : connection.outgoing two message = .error fault := hbytes
    rw [command_of_outgoing_error hone houtgoing, command_of_outgoing_error htwo hother]
    exact .error fault ⟨hsame, rfl⟩
  | ok bytes =>
    obtain ⟨response, received, honward, hsignals, hparse, hcommand⟩ :=
      supply.command_of_frames decode hone hbytes hfirst (hfirstServes bytes hbytes)
    obtain ⟨otherResponse, otherReceived, hotherOnward, hotherSignals, hotherParse, hother⟩ :=
      supply.command_of_frames decode htwo hbytes hsecond (hsecondServes bytes hbytes)
    have hcounterpart : received.Counterpart otherReceived :=
      ⟨honward.symm.trans (hsame.trans hotherOnward), hotherSignals.trans hsignals.symm⟩
    rw [hcommand, hother]
    exact connection.endsAlike_failing hparse hotherParse decode hcounterpart

/-- The least document that reports success. -/
def RawDocument.success : RawDocument :=
  ⟨[13, 0, 0, 0, 0x10, 0x6F, 0x6B, 0, 1, 0, 0, 0, 0], by decide⟩

/-- It is framed with a checksum and a byte too many, to answer the request 1. -/
def Shipment.checked : Shipment where
  requestId := 9
  responseTo := 1
  opcode := 2013
  body := (ReplyLayout.msg 1 [7] [1, 2, 3, 4]).body .success
  envelope := none

/-- It is framed in the legacy form, in an envelope of Snappy data. -/
def Shipment.enclosed : Shipment where
  requestId := 10
  responseTo := 1
  opcode := 1
  body := (ReplyLayout.legacy (List.replicate 16 0 ++ [1, 0, 0, 0]) []).body .success
  envelope := some (⟨.snappy, 0⟩,
    Snappy.compress ((ReplyLayout.legacy (List.replicate 16 0 ++ [1, 0, 0, 0]) []).body .success))

/-- A ping that is answered in either of these framings. -/
theorem framing_irrelevant_enclosed :
    let state := ((ReadyPeer.connection ⟨[⟨.snappy, 0⟩]⟩).run [.establish .blocking]
      ((ReadyPeer.connection ⟨[⟨.snappy, 0⟩]⟩).start (.having []) .initial)).1
    EndsAlike ConnectionStatus.Counterpart
        ((ReadyPeer.connection ⟨[⟨.snappy, 0⟩]⟩).command .awaited
          (.ofCommand 1 "app" [("ping", .int32 1)]) RawDocument.toDocument
          { state with stream := .having Shipment.checked.bytes })
        ((ReadyPeer.connection ⟨[⟨.snappy, 0⟩]⟩).command .awaited
          (.ofCommand 1 "app" [("ping", .int32 1)]) RawDocument.toDocument
          { state with stream := .having Shipment.enclosed.bytes }) ∧
      ∃ next, (ReadyPeer.connection ⟨[⟨.snappy, 0⟩]⟩).command .awaited
          (.ofCommand 1 "app" [("ping", .int32 1)]) RawDocument.toDocument
          { state with stream := .having Shipment.enclosed.bytes } =
        .ok [("ok", .int32 1)] next := by
  have hchecked : Shipment.checked.Frames ⟨[⟨.snappy, 0⟩]⟩ 48000000 1 .success :=
    { layout := ⟨.msg 1 [7] [1, 2, 3, 4], rfl, rfl, rfl⟩
      responseTo := rfl
      counted := ⟨by decide, by decide⟩
      received := ⟨.plain, ⟨by decide, by decide, fun _ => by decide, nofun⟩, nofun⟩ }
  have henclosed : Shipment.enclosed.Frames ⟨[⟨.snappy, 0⟩]⟩ 48000000 1 .success :=
    { layout := ⟨.legacy (List.replicate 16 0 ++ [1, 0, 0, 0]) [], ⟨rfl, by decide⟩, rfl, rfl⟩
      responseTo := rfl
      counted := ⟨by decide, by decide⟩
      received := by
        refine ⟨.plain, ⟨by decide, by decide, nofun, fun compressor packed h => ?_⟩,
          fun compressor packed h => ?_⟩
        · cases h
          exact ⟨List.mem_singleton.mpr rfl, rfl⟩
        · cases h
          exact Unpacking.own_undoes_plain _ }
  exact ⟨framing_irrelevant ReadyPeer.supply .awaited (.ofCommand 1 "app" [("ping", .int32 1)])
    RawDocument.toDocument ⟨by decide, rfl⟩ hchecked henclosed
    (fun _ _ => ⟨_, [], rfl, (List.append_nil _).symm⟩)
    (fun _ _ => ⟨_, [], rfl, (List.append_nil _).symm⟩), _, rfl⟩

end CommandLink
