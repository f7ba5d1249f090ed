import Mathlib.Data.List.Forall2
import CommandLink.Connection.Ready
import CommandLink.Proofs.Codec.Plain
import CommandLink.Proofs.Compressor.Selection
import CommandLink.Proofs.Connection.Session

/-!
# Messages are delivered whole and in order

A peer sends messages, plain or in envelopes that a compressor of the connection packed. If the
transport serves just their bytes, one call of `receive` for each gives them back, in order and with
nothing left over (`inbound_delivered`). What one message is read as is settled without a transport
(`Shipment.reading_bytes`); what is read from a transport follows from what lies ahead on it
(`Supply.receive_of_reading`).
-/

namespace CommandLink

open Connection

variable {σ : Type}

/-! ## Messages that are sent -/

/-- A message that a peer sends: the ids, opcode and body of the message itself, and with an
envelope the compressor that packed the body and what it packed. -/
structure Shipment where
  requestId : UInt32
  responseTo : UInt32
  opcode : Int32
  body : Bytes
  envelope : Option (Compressor × Bytes)

namespace Shipment

/-- The header of the message itself. -/
def header (shipment : Shipment) : Header :=
  ⟨UInt32.ofNat (Header.size + shipment.body.length), shipment.requestId, shipment.responseTo,
    shipment.opcode⟩

/-- The headers of an envelope around the message. -/
def envelopeHeader (shipment : Shipment) (compressor : Compressor) (packed : Bytes) :
    EnvelopeHeader where
  innerOpcode := shipment.opcode
  uncompressedSize := UInt32.ofNat shipment.body.length
  compressorId := compressor.id
  outer := ⟨UInt32.ofNat (Header.size + (EnvelopeHeader.size + packed.length)),
    shipment.requestId, shipment.responseTo, 2012⟩

/-- The bytes that are sent. -/
def bytes (shipment : Shipment) : Bytes :=
  match shipment.envelope with
  | none => shipment.header.encode ++ shipment.body
  | some (compressor, packed) =>
    let envelope := shipment.envelopeHeader compressor packed
    envelope.outer.encode ++ (envelope.encode ++ packed)

/-- The message can be received within a limit: it fits, also out of its envelope; a plain one is
not marked as an envelope, and in an envelope is what a compressor of the connection packed. -/
structure Fits (shipment : Shipment) (selection : CompressorSelection) (packing : Packing)
    (limit : Nat) : Prop where
  sent : shipment.bytes.length ≤ limit
  unpacked : Header.size + shipment.body.length ≤ limit
  plain : shipment.envelope = none → shipment.opcode ≠ 2012
  packed : ∀ compressor packed, shipment.envelope = some (compressor, packed) →
    compressor ∈ selection.ordered ∧ compressor.pack packing shipment.body = .ok packed

/-- The header that the message is handed on with. -/
def inbound (shipment : Shipment) : InboundHeader :=
  { shipment.header.toInbound with compressed := shipment.envelope.isSome }

/-- A response is the message that was sent. -/
structure DeliveredAs (shipment : Shipment) (response : Response) : Prop where
  messageLength : response.header.messageLength.toNat = Header.size + shipment.body.length
  requestId : response.header.requestId = shipment.requestId
  responseTo : response.header.responseTo = shipment.responseTo
  opcode : response.header.opcode = shipment.opcode
  compressed : response.header.compressed = shipment.envelope.isSome
  body : response.body.bytes = shipment.body

end Shipment

/-! ## What they are read as -/

namespace Shipment

variable {connection : Connection σ} {packing : Packing} {limit : Nat} {shipment : Shipment}

theorem isMessage_bytes (hcounted : shipment.bytes.length < UInt32.size)
    (hfits : shipment.Fits connection.compressors packing limit) :
    IsMessage limit shipment.bytes := by
  have hsent := hfits.sent
  unfold bytes at hsent hcounted ⊢
  cases henvelope : shipment.envelope with
  | none =>
    rw [henvelope] at hsent hcounted
    simp only [List.length_append, Header.length_encode] at hsent hcounted
    exact isMessage_encode_append (UInt32.toNat_ofNat_of_lt' hcounted) hsent
  | some wrapping =>
    obtain ⟨compressor, packed⟩ := wrapping
    rw [henvelope] at hsent hcounted
    simp only [List.length_append, Header.length_encode, EnvelopeHeader.length_encode]
      at hsent hcounted
    refine isMessage_encode_append ?_ ?_
    · rw [List.length_append, EnvelopeHeader.length_encode]
      exact UInt32.toNat_ofNat_of_lt' hcounted
    · rw [List.length_append, EnvelopeHeader.length_encode]
      exact hsent

/-- **What is sent is read as the message itself**, out of its envelope if it came in one. -/
theorem reading_bytes (hcounted : Header.size + shipment.body.length < UInt32.size)
    (hundoes : ∀ compressor packed, shipment.envelope = some (compressor, packed) →
      Unpacking.own.Undoes packing compressor)
    (hfits : shipment.Fits connection.compressors packing limit) :
    connection.reading limit shipment.bytes = .ok (shipment.inbound, shipment.body) := by
  have hunpacked := hfits.unpacked
  unfold bytes inbound
  cases henvelope : shipment.envelope with
  | none =>
    have hplain : shipment.header.isEnvelope = false :=
      decide_eq_false (hfits.plain henvelope)
    dsimp only
    rw [connection.reading_encode_append, content, hplain]
    rfl
  | some wrapping =>
    obtain ⟨compressor, packed⟩ := wrapping
    obtain ⟨hmem, hpack⟩ := hfits.packed compressor packed henvelope
    obtain ⟨found, hrequire, hmethod⟩ := CompressorSelection.require_of_mem hmem
    have hsize : (shipment.envelopeHeader compressor packed).uncompressedSize.toNat =
        shipment.body.length := UInt32.toNat_ofNat_of_lt' (by omega)
    have hplan : connection.planUnpacking (shipment.envelopeHeader compressor packed) limit =
        .ok (found, shipment.body.length) := by
      unfold planUnpacking
      have hid : (shipment.envelopeHeader compressor packed).compressorId = compressor.id := rfl
      rw [hid, hrequire, hsize]
      simp only [bind, Except.bind]
      rw [if_neg (by omega)]
    have hfill : found.uncompress packed shipment.body.length [] = ⟨shipment.body, .ok ()⟩ := by
      rw [Compressor.uncompress_of_method_eq hmethod]
      exact Compressor.uncompress_of_undoes (hundoes compressor packed henvelope) (by omega)
        hpack []
    have hinbound : (shipment.envelopeHeader compressor packed).toInbound =
        { shipment.header.toInbound with compressed := true } := by
      rw [EnvelopeHeader.toInbound, EnvelopeHeader.inner_eq hsize (by omega)]
      rfl
    have hdecode : EnvelopeHeader.decode
        ((shipment.envelopeHeader compressor packed).encode ++ packed)
        (shipment.envelopeHeader compressor packed).outer =
        .ok (shipment.envelopeHeader compressor packed) :=
      EnvelopeHeader.decode_encode_append _ _ _
    have hmarked : (shipment.envelopeHeader compressor packed).outer.isEnvelope = true := rfl
    dsimp only
    rw [connection.reading_encode_append, content, if_pos hmarked, unpacked, hdecode]
    simp only [bind, Except.bind, hplan, EnvelopeHeader.drop_encode_append, hfill, hinbound,
      Option.isSome_some]

/-- A response that holds the message itself is the message that was sent. -/
theorem deliveredAs (hlimit : limit < UInt32.size)
    (hfits : shipment.Fits connection.compressors packing limit) (loan : Option Nat) :
    shipment.DeliveredAs ⟨shipment.inbound, ⟨shipment.body, loan⟩⟩ where
  messageLength := UInt32.toNat_ofNat_of_lt' (Nat.lt_of_le_of_lt hfits.unpacked hlimit)
  requestId := rfl
  responseTo := rfl
  opcode := rfl
  compressed := rfl
  body := rfl

end Shipment

/-! ## What lies ahead -/

/-- A transport that serves bytes: a read of no more than lies ahead gives just as many of them, and
leaves the rest. -/
structure Supply (transport : Transport σ) where
  ahead : σ → Bytes
  read : ∀ mode count stream, count ≤ (ahead stream).length →
    (transport.read mode count stream).1 = ⟨false, .done ((ahead stream).take count)⟩ ∧
      ahead (transport.read mode count stream).2 = (ahead stream).drop count

/-- States that differ, besides journals and buffers, in their streams only. -/
def ConnectionStatus.Onward (state next : ConnectionStatus σ) : Prop :=
  ∃ stream ledger journal, next = { state with stream, ledger, journal }

namespace ConnectionStatus.Onward

theorem trans {state mid next : ConnectionStatus σ} (hfirst : state.Onward mid)
    (hsecond : mid.Onward next) : state.Onward next := by
  obtain ⟨_, _, _, rfl⟩ := hfirst
  obtain ⟨stream, ledger, journal, rfl⟩ := hsecond
  exact ⟨stream, ledger, journal, rfl⟩

theorem of_alike {state next : ConnectionStatus σ} (halike : state.Alike next) :
    state.Onward next := by
  obtain ⟨ledger, journal, rfl⟩ := halike
  exact ⟨_, ledger, journal, rfl⟩

end ConnectionStatus.Onward

namespace Supply

variable {connection : Connection σ} (supply : Supply connection.transport)
  {state : ConnectionStatus σ}

/-- A read of what lies ahead gives it. -/
theorem readBuffer_of_ahead (mode : Mode) (stage : Stage) {front rest : Bytes}
    (hopen : state.phase ≠ .closed) (hahead : supply.ahead state.stream = front ++ rest) :
    ∃ loan next, connection.readBuffer mode stage front.length state = .ok ⟨front, loan⟩ next ∧
      state.Onward next ∧ supply.ahead next.stream = rest := by
  obtain ⟨hanswer, hleft⟩ := supply.read mode front.length state.stream
    (by rw [hahead, List.length_append]; exact Nat.le_add_right _ _)
  rw [hahead, List.take_left] at hanswer
  rw [hahead, List.drop_left] at hleft
  have hcall := @call_of_answered _ _ connection _ mode stage (.asked front.length) _ _ _ hopen
    (Prod.ext hanswer rfl)
  exact ⟨_, _, Action.bind_of_ok hcall, ⟨_, _, _, rfl⟩, hleft⟩

/-- **What lies ahead is received**: a message at the front, and just that. -/
theorem receiveWithin_of_reading (mode : Mode) {limit : Nat} {frame rest : Bytes}
    {inbound : InboundHeader} {bytes : Bytes} (hopen : state.phase ≠ .closed)
    (hframe : IsMessage limit frame) (hahead : supply.ahead state.stream = frame ++ rest)
    (hreading : connection.reading limit frame = .ok (inbound, bytes)) :
    ∃ loan next, connection.receiveWithin mode limit state = .ok ⟨inbound, bytes, loan⟩ next ∧
      state.Onward next ∧ supply.ahead next.stream = rest := by
  obtain ⟨header, body, rfl, hsize, hdecode⟩ := hframe.exists_header
  rw [connection.reading_encode_append] at hreading
  rw [List.append_assoc] at hahead
  let logged := state.log .trace "receiving message" [("address", connection.address.text)]
  obtain ⟨frontLoan, fronted, hfront, hfronted, hbodyAhead⟩ :=
    @readBuffer_of_ahead _ _ supply logged mode .readingHeader _ _ hopen hahead
  have hstillOpen : fronted.phase ≠ .closed := by
    obtain ⟨_, _, _, rfl⟩ := hfronted
    exact hopen
  obtain ⟨bodyLoan, bodied, hbody, hbodied, hrest⟩ :=
    supply.readBuffer_of_ahead mode .readingBody hstillOpen hbodyAhead
  rw [Header.length_encode] at hfront
  rw [hsize] at hbody
  obtain ⟨assembled, halike, hends⟩ := @assemble_gives _ connection header ⟨body, bodyLoan⟩ hsize
    limit bodied
  rcases hends with ⟨fault, hcontent, -⟩ | ⟨_, _, loan, hcontent, hassemble⟩
  · rw [hreading] at hcontent
    cases hcontent
  · rw [hreading] at hcontent
    cases hcontent
    refine ⟨loan, assembled.drop ⟨header.encode, frontLoan⟩, ?_, ?_, ?_⟩
    · refine (Action.bind_of_ok hfront).trans (Action.holding_of_ok ?_)
      rw [Action.ofResult_bind_of_ok hdecode, Action.bind_of_ok hbody]
      exact hassemble
    · have hlogged : state.Onward logged := .of_alike (.note state _)
      have hdropped : assembled.Onward (assembled.drop ⟨header.encode, frontLoan⟩) :=
        .of_alike (.drop assembled _)
      exact hlogged.trans (hfronted.trans (hbodied.trans ((ConnectionStatus.Onward.of_alike
        halike).trans hdropped)))
    · obtain ⟨_, _, rfl⟩ := halike
      exact hrest

/-- A message that lies ahead is received by whoever asks for what it answers. -/
theorem receive_of_reading (mode : Mode) {frame rest : Bytes} {inbound : InboundHeader}
    {bytes : Bytes} (husable : state.Usable)
    (hframe : IsMessage state.profile.limits.messageSize frame)
    (hahead : supply.ahead state.stream = frame ++ rest)
    (hreading : connection.reading state.profile.limits.messageSize frame = .ok (inbound, bytes)) :
    ∃ loan next, connection.receive mode inbound.responseTo state =
        .ok ⟨inbound, bytes, loan⟩ next ∧
      state.Onward next ∧ supply.ahead next.stream = rest := by
  obtain ⟨loan, next, hreceive, honward, hrest⟩ :=
    supply.receiveWithin_of_reading mode husable.notClosed hframe hahead hreading
  refine ⟨loan, next, ?_, honward, hrest⟩
  unfold receive
  rw [Action.bind_of_ok (connection.requireStream_of_usable husable), Action.get_bind]
  refine closingOnFailure_of_ok ((Action.bind_of_ok hreceive).trans ?_)
  rw [checkAnswers, if_pos rfl]
  rfl

/-- Messages that lie ahead are received one after the other. The induction is on the messages; each
call finds the state as it was but for the stream, which is one message further. -/
theorem mapM_receive_of_ahead {packing : Packing}
    (hundoes : ∀ compressor ∈ connection.compressors.ordered,
      Unpacking.own.Undoes packing compressor)
    {limit : Nat} (hlimit : limit < UInt32.size) (shipments : List (Mode × Shipment))
    (hfits : ∀ sent ∈ shipments, sent.2.Fits connection.compressors packing limit)
    {state : ConnectionStatus σ} (husable : state.Usable)
    (hstateLimit : state.profile.limits.messageSize = limit) {rest : Bytes}
    (hahead : supply.ahead state.stream = (shipments.map (·.2.bytes)).flatten ++ rest) :
    ∃ responses next,
      (shipments.mapM fun sent => connection.receive sent.1 sent.2.responseTo) state =
        .ok responses next ∧
      List.Forall₂ (fun sent response => sent.2.DeliveredAs response) shipments responses ∧
      state.Onward next ∧ supply.ahead next.stream = rest := by
  induction shipments generalizing state with
  | nil => exact ⟨[], state, rfl, .nil, ⟨_, _, _, rfl⟩, hahead⟩
  | cons sent others ih =>
    have hfirst := hfits sent List.mem_cons_self
    rw [List.map_cons, List.flatten_cons, List.append_assoc] at hahead
    have hpacked : ∀ compressor packed, sent.2.envelope = some (compressor, packed) →
        Unpacking.own.Undoes packing compressor :=
      fun compressor packed h => hundoes compressor (hfirst.packed compressor packed h).1
    obtain ⟨loan, mid, hreceive, honward, hmidAhead⟩ := supply.receive_of_reading sent.1 husable
      (hstateLimit ▸ Shipment.isMessage_bytes (Nat.lt_of_le_of_lt hfirst.sent hlimit) hfirst) hahead
      (hstateLimit ▸ Shipment.reading_bytes (Nat.lt_of_le_of_lt hfirst.unpacked hlimit) hpacked
        hfirst)
    have hmid : mid.Usable ∧ mid.profile.limits.messageSize = limit := by
      obtain ⟨_, _, _, rfl⟩ := honward
      exact ⟨⟨husable.notClosed, husable.hasStream⟩, hstateLimit⟩
    obtain ⟨responses, next, hothers, hdelivered, honwards, hrest⟩ :=
      ih (fun other hmem => hfits other (List.mem_cons_of_mem _ hmem)) hmid.1 hmid.2 hmidAhead
    refine ⟨_ :: responses, next, ?_, .cons (Shipment.deliveredAs hlimit hfirst loan) hdelivered,
      honward.trans honwards, hrest⟩
    rw [List.mapM_cons]
    exact (Action.bind_of_ok hreceive).trans (Action.bind_of_ok hothers)

end Supply

/-- A ready peer serves the bytes that it has ready. -/
def ReadyPeer.supply : Supply ReadyPeer.transport where
  ahead := ReadyPeer.ready
  read _ count peer h := by
    simp only [transport, read, if_pos h, and_self]

/-- **Messages are delivered whole and in order.** On an open connection whose limit a length field
can tell, let the transport serve just the bytes of messages that fit: plain ones of any opcode but
that of envelopes, and such as a compressor of the connection packed, with a library whose work the
library at hand undoes. Then receiving once for each, in either mode, gives each back: its own
header, marked where it came in an envelope, and its body. The connection stays open, and no byte is
left. -/
theorem inbound_delivered {connection : Connection σ} (supply : Supply connection.transport)
    {packing : Packing}
    (hundoes : ∀ compressor ∈ connection.compressors.ordered,
      Unpacking.own.Undoes packing compressor)
    {stream : σ} {counters : Counters} {operations : List Operation}
    {state : ConnectionStatus σ} {receipts : List Nat}
    (hreached : connection.run operations (connection.start stream counters) = (state, receipts))
    (hopen : state.phase = .opened) (hlimit : state.profile.limits.messageSize < UInt32.size)
    {shipments : List (Mode × Shipment)}
    (hfits : ∀ sent ∈ shipments,
      sent.2.Fits connection.compressors packing state.profile.limits.messageSize)
    (hserved : supply.ahead state.stream = (shipments.map (·.2.bytes)).flatten) :
    ∃ responses next,
      (shipments.mapM fun sent => connection.receive sent.1 sent.2.responseTo) state =
        .ok responses next ∧
      List.Forall₂ (fun sent response => sent.2.DeliveredAs response) shipments responses ∧
      next.phase = .opened ∧ supply.ahead next.stream = [] := by
  have hstreamed := connection.streamed_of_start stream counters operations
  rw [hreached] at hstreamed
  have husable : state.Usable := ⟨by rw [hopen]; decide, hstreamed hopen⟩
  obtain ⟨responses, next, hreceived, hdelivered, honward, hleft⟩ :=
    supply.mapM_receive_of_ahead hundoes hlimit shipments hfits husable rfl
      (hserved.trans (List.append_nil _).symm)
  refine ⟨responses, next, hreceived, hdelivered, ?_, hleft⟩
  obtain ⟨_, _, _, rfl⟩ := honward
  exact hopen

/-- An empty message of an odd opcode, and three bytes in envelopes of Snappy, zlib and zstd
data. -/
def Shipment.mixed : List (Mode × Shipment) :=
  [ (.awaited, ⟨9, 4, 77, [], none⟩),
    (.blocking, ⟨10, 5, 2013, [7, 8, 9], some (⟨.snappy, 0⟩, Snappy.compress [7, 8, 9])⟩),
    (.awaited, ⟨11, 6, 2013, [7, 8, 9], some (⟨.zlib, 6⟩, Zlib.compress [7, 8, 9])⟩),
    (.blocking, ⟨12, 7, 1, [7, 8, 9], some (⟨.zstd, 3⟩, Zstd.compress [7, 8, 9])⟩) ]

/-- A peer that has them all ready has them all delivered. -/
theorem inbound_delivered_mixed :
    let compressors : CompressorSelection := ⟨[⟨.snappy, 0⟩, ⟨.zlib, 6⟩, ⟨.zstd, 3⟩]⟩
    ∃ state receipts, (ReadyPeer.connection compressors).run [.establish .blocking]
        ((ReadyPeer.connection compressors).start
          (.having (Shipment.mixed.map (·.2.bytes)).flatten) .initial) = (state, receipts) ∧
      state.phase = .opened ∧ ∃ responses next,
        (Shipment.mixed.mapM fun sent =>
          (ReadyPeer.connection compressors).receive sent.1 sent.2.responseTo) state =
          .ok responses next ∧
        List.Forall₂ (fun sent response => sent.2.DeliveredAs response) Shipment.mixed responses ∧
        next.phase = .opened ∧ next.stream.ready = [] := by
  intro compressors
  have hfits : ∀ sent ∈ Shipment.mixed, sent.2.Fits compressors .plain 48000000 := by
    intro sent hmem
    simp only [Shipment.mixed, List.mem_cons, List.not_mem_nil, or_false] at hmem
    rcases hmem with rfl | rfl | rfl | rfl
    · exact ⟨by decide, by decide, fun _ => by decide, nofun⟩
    all_goals
      refine ⟨by decide, by decide, nofun, fun compressor packed h => ?_⟩
      cases h
      exact ⟨by decide, rfl⟩
  refine ⟨_, _, rfl, rfl, ?_⟩
  exact @inbound_delivered _ (ReadyPeer.connection compressors) ReadyPeer.supply .plain
    (fun compressor _ => Unpacking.own_undoes_plain compressor) _ .initial [.establish .blocking]
    _ _ rfl rfl (by decide) Shipment.mixed hfits rfl

end CommandLink
