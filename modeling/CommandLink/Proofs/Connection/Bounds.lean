import CommandLink.Connection.Ready
import CommandLink.Proofs.Codec.Unpacking
import CommandLink.Proofs.Connection.Journal
import CommandLink.Proofs.Connection.Stages
import CommandLink.Proofs.Connection.Strict

/-!
# What a peer can make a connection do

Every length that a peer tells is bound before it is used. Whatever is done with a connection, and
opening it too, has its transport read no more than a header, or what fits the limit in force beside
one, and no spare buffer is asked for that would not fit (`within_of_perform`). What is received is
exactly as long as it was declared (`length_of_content`), and on the way nothing runs out of range
(`receiving_bounded`).
-/

namespace CommandLink

variable {σ : Type}

/-- What the transport may be asked for under a limit: to read a header or what fits beside one, and
for a spare buffer of what fits beside one. -/
def Happening.Within (limit : Nat) : Happening → Prop
  | asked count => count = Header.size ∨ count + Header.size ≤ limit
  | spared size => size + Header.size ≤ limit
  | _ => True

namespace Connection

variable {connection : Connection σ} {state mid next : ConnectionStatus σ} {mode : Mode}
  {limit : Nat}

/-! ## What is asked for -/

theorem lasting_within (connection : Connection σ) (limit : Nat) :
    connection.Lasting (Entered (Happening.Within limit)) :=
  connection.lasting_entered (fun _ => trivial) trivial trivial

theorem admitsReceiving_within (connection : Connection σ) (mode : Mode) (limit : Nat) :
    connection.AdmitsReceiving (Entered (Happening.Within limit)) mode limit where
  header := admits_entered (.inl rfl)
  body _ hfits := admits_entered (.inr hfits)
  spare _ hfits := Entered.note hfits

theorem within_of_command (connection : Connection σ) (mode : Mode) (message : Command)
    {α : Type} (decode : RawDocument → Except LinkError α) (state : ConnectionStatus σ) :
    Entered (Happening.Within state.profile.limits.messageSize) state
      ((connection.command mode message decode).after state) :=
  (connection.lasting_within _).keeps_command (fun before _ => .note trivial before) decode state
    (fun _ _ => admits_entered trivial) (connection.admitsReceiving_within mode _)

theorem within_of_receive (connection : Connection σ) (mode : Mode) (responseTo : UInt32)
    (state : ConnectionStatus σ) :
    Entered (Happening.Within state.profile.limits.messageSize) state
      ((connection.receive mode responseTo).after state) :=
  (connection.lasting_within _).keeps_receive responseTo state
    (connection.admitsReceiving_within mode _)

theorem within_of_send (connection : Connection σ) (mode : Mode) (bytes : Bytes)
    (requestId : UInt32) (limit : Nat) (state : ConnectionStatus σ) :
    Entered (Happening.Within limit) state
      ((connection.send mode bytes requestId).after state) :=
  (connection.lasting_within limit).keeps_send requestId (admits_entered trivial) state

/-! ## Opening -/

/-- What was entered is within a limit, and the profile is the same as before. -/
def Modest (limit : Nat) (state next : ConnectionStatus σ) : Prop :=
  Entered (Happening.Within limit) state next ∧ next.profile = state.profile

theorem lasting_modest (connection : Connection σ) (limit : Nat) :
    connection.Lasting (Modest limit) :=
  (connection.lasting_within limit).and connection.lasting_profile

/-- A change of anything but the profile, the journal and the stream's own state. -/
theorem Modest.of_journal (hjournal : next.journal = state.journal)
    (hprofile : next.profile = state.profile) : Modest limit state next :=
  ⟨(Entered.refl state).of_journal hjournal, hprofile⟩

theorem Modest.admits {α : Type} {happening : Happening} {perform : σ → Answer α × σ}
    (h : happening.Within limit) : Admits (Modest limit) happening perform :=
  fun state => ⟨admits_entered h state, rfl⟩

theorem modest_of_begin (connection : Connection σ) (limit : Nat) :
    Action.Keeps (Modest limit) connection.begin := by
  refine (connection.lasting_modest limit).keeps_begin (fun _ => .of_journal rfl rfl)
    (fun _ => .of_journal rfl rfl) (fun state => ?_) (.admits trivial)
  unfold shutStream
  split
  · exact ⟨.note trivial { state with stream := connection.transport.close state.stream }, rfl⟩
  · exact (connection.lasting_modest limit).refl state

theorem modest_of_connecting (connection : Connection σ) (mode : Mode) (limit : Nat) :
    Action.Keeps (Modest limit) (connection.connecting mode) :=
  (connection.lasting_modest limit).keeps_bind (connection.modest_of_begin limit) fun _ =>
    (connection.lasting_modest limit).keeps_closingOnFailure
      ((connection.lasting_modest limit).keeps_call (.admits trivial))

/-- The server is asked under the limit that is assumed of it before. -/
theorem modest_of_describe (connection : Connection σ) (mode : Mode)
    (state : ConnectionStatus σ) :
    Modest state.profile.limits.messageSize state ((connection.describe mode).after state) := by
  have hlasting := connection.lasting_modest state.profile.limits.messageSize
  unfold describe
  split
  · have hnumbered := hlasting.keeps_takeRequestId fun _ _ => .of_journal rfl rfl
    refine hlasting.after_bind (hnumbered state) fun requestId numbered hrequestId => ?_
    have hprofile : numbered.profile = state.profile := (hnumbered.of_ok hrequestId).2
    refine hlasting.after_bind ?_ fun reply _ _ =>
      hlasting.keeps_bind hlasting.keeps_get (fun _ => hlasting.keeps_pure _) _
    refine hlasting.keeps_command (fun before _ => ⟨.note trivial before, rfl⟩) _ numbered
      (fun _ _ => .admits trivial) ?_
    rw [hprofile]
    exact ⟨.admits (.inl rfl), fun _ hfits => .admits (.inr hfits),
      fun _ hfits before => ⟨.note hfits before, rfl⟩⟩
  · exact hlasting.keeps_prepare _ _ state

/-- **Opening** is bound by the limit that is assumed before it. -/
theorem within_of_establish (connection : Connection σ) (mode : Mode)
    (state : ConnectionStatus σ) :
    Entered (Happening.Within state.profile.limits.messageSize) state
      ((connection.establish mode).after state) := by
  have hmodest := connection.lasting_modest state.profile.limits.messageSize
  have hlasting := connection.lasting_within state.profile.limits.messageSize
  have hconnecting := connection.modest_of_connecting mode state.profile.limits.messageSize
  have hdescribing : Modest state.profile.limits.messageSize state
      ((connection.describing mode).after state) := by
    refine hmodest.after_bind (hconnecting state) fun _ connected hconnected => ?_
    have hprofile : connected.profile = state.profile := (hconnecting.of_ok hconnected).2
    refine hmodest.after_concluding ?_ hmodest.refl fun _ => hmodest.shut
    rw [← hprofile]
    exact connection.modest_of_describe mode connected
  rw [establish_eq]
  refine hlasting.after_bind hdescribing.1 fun profile described _ => ?_
  refine hlasting.keeps_bind (hlasting.keeps_closingOnFailure ?_) (fun _ => ?_) described
  · exact hlasting.keeps_adopt profile (fun before _ => (Entered.refl before).of_journal rfl)
      fun before => (Entered.refl before).of_journal rfl
  · exact Action.keeps_modify fun opened => hlasting.log opened _ _ _

/-- **No operation asks for more than the limit in force allows**, but for buffers that are
borrowed. -/
theorem within_of_perform (connection : Connection σ) {operation : Operation}
    (hother : ∀ size, operation ≠ .borrow size) (state : ConnectionStatus σ) :
    Entered (Happening.Within state.profile.limits.messageSize) state
      ((operation.perform connection).after state) := by
  cases operation with
  | establish mode => exact connection.within_of_establish mode state
  | command mode message decode => exact connection.within_of_command mode message decode state
  | send mode bytes requestId => exact connection.within_of_send mode bytes requestId _ state
  | receive mode responseTo => exact connection.within_of_receive mode responseTo state
  | borrow size => exact absurd rfl (hother size)
  | drop buffer => exact (connection.lasting_within _).drop state buffer
  | close => exact (connection.lasting_within _).shut state

/-! ## What is received -/

/-- Two reads that receiving makes: of a header, which is accepted, and of as many bytes as it
announces. -/
def Reads (connection : Connection σ) (mode : Mode) (limit : Nat) (state : ConnectionStatus σ)
    (header : Header) (body : Buffer) : Prop :=
  ∃ front fronted bodied,
    connection.readBuffer mode .readingHeader Header.size
        (state.log .trace "receiving message" [("address", connection.address.text)]) =
      .ok front fronted ∧
    Header.decode front.bytes limit = .ok header ∧
    connection.readBuffer mode .readingBody header.bodySize fronted = .ok body bodied

/-- What was received is the content of what was read. -/
theorem reads_of_receiveWithin {response : Response}
    (h : connection.receiveWithin mode limit state = .ok response next) :
    ∃ header body, connection.Reads mode limit state header body ∧
      body.bytes.length = header.bodySize ∧
      connection.content limit header body.bytes = .ok (response.header, response.body.bytes) := by
  obtain ⟨front, fronted, header, body, bodied, _, hfront, hdecode, hbody, hassemble, -⟩ :=
    ok_of_receiveWithin h
  obtain ⟨hlength, hcontent, -⟩ := ok_of_assemble hassemble
  exact ⟨header, body, ⟨front, fronted, bodied, hfront, hdecode, hbody⟩, hlength, hcontent⟩

/-- What is unpacked has the size that the envelope declares. -/
theorem length_of_unpacked {header : Header} {body bytes : Bytes} {inbound : InboundHeader}
    (h : connection.unpacked limit header body = .ok (inbound, bytes)) :
    ∃ envelope, EnvelopeHeader.decode body header = .ok envelope ∧
      bytes.length = envelope.uncompressedSize.toNat := by
  obtain ⟨envelope, plan, hdecode, hplan, -, hfill⟩ := unpacked_eq_ok h
  obtain ⟨-, hsize, -⟩ := planUnpacking_eq_ok hplan
  have hfills := plan.1.fills_uncompress (body.drop EnvelopeHeader.size) plan.2 []
  rw [hfill] at hfills
  obtain ⟨filled, rfl, hlength⟩ := hfills
  exact ⟨envelope, hdecode, hlength.trans hsize⟩

/-- **A message is as long as it was declared**: by its header, or by its envelope. -/
theorem length_of_content {header : Header} {body bytes : Bytes} {inbound : InboundHeader}
    (hbody : body.length = header.bodySize)
    (h : connection.content limit header body = .ok (inbound, bytes)) :
    if header.isEnvelope then
      ∃ envelope, EnvelopeHeader.decode body header = .ok envelope ∧
        bytes.length = envelope.uncompressedSize.toNat
    else bytes.length = header.bodySize := by
  unfold content at h
  by_cases henvelope : header.isEnvelope
  · rw [if_pos henvelope] at h ⊢
    exact length_of_unpacked h
  · rw [if_neg henvelope] at h ⊢
    cases h
    exact hbody

end Connection

/-- **A peer cannot make a connection reach too far.** Whatever the peer sends and whatever the
transport does, no operation asks the transport for more than the limit in force allows: it reads
headers and what fits the limit beside one, and spare buffers are no larger. Of what it receives,
in either form and under any limit, the header was read and accepted, the body was read as the
header announces it, and the message is exactly as long as the header declares, or its envelope if
it came in one. Nothing runs out of range on the way, nor when the document of the reply is found:
by strict operations alone the same is received and the same found. -/
theorem receiving_bounded (connection : Connection σ) (state : ConnectionStatus σ) :
    (∀ operation : Operation, (∀ size, operation ≠ .borrow size) →
      ∃ fresh, ((operation.perform connection).after state).journal = state.journal ++ fresh ∧
        (∀ count, .asked count ∈ fresh →
          count = 16 ∨ count + 16 ≤ state.profile.limits.messageSize) ∧
        ∀ size, .spared size ∈ fresh → size + 16 ≤ state.profile.limits.messageSize) ∧
    (∀ mode limit response next,
      connection.receiveWithin mode limit state = .ok response next →
      ∃ header body, connection.Reads mode limit state header body ∧
        if header.isEnvelope then
          ∃ envelope, EnvelopeHeader.decode body.bytes header = .ok envelope ∧
            response.body.bytes.length = envelope.uncompressedSize.toNat
        else response.body.bytes.length + 16 = header.messageLength.toNat) ∧
    (∀ mode limit, connection.receiveStrictlyWithin mode limit =
      StrictAction.ofAction (connection.receiveWithin mode limit)) ∧
    ∀ header body requestId,
      Reply.parseStrictly header body requestId =
        Strict.plain (Reply.parse header body requestId) := by
  refine ⟨fun operation hother => ?_, fun mode limit response next hreceive => ?_,
    connection.receiveStrictlyWithin_eq, Reply.parseStrictly_eq⟩
  · obtain ⟨fresh, hjournal, hfresh⟩ := connection.within_of_perform hother state
    exact ⟨fresh, hjournal, fun count hmem => hfresh _ hmem, fun size hmem => hfresh _ hmem⟩
  · obtain ⟨header, body, hreads, hbody, hcontent⟩ := Connection.reads_of_receiveWithin hreceive
    have hlength := Connection.length_of_content hbody hcontent
    refine ⟨header, body, hreads, ?_⟩
    by_cases henvelope : header.isEnvelope
    · rw [if_pos henvelope] at hlength ⊢
      exact hlength
    · obtain ⟨_, _, _, _, hdecode, _⟩ := hreads
      rw [if_neg henvelope] at hlength ⊢
      rw [hlength, Header.bodySize]
      exact Nat.sub_add_cancel (Header.decode_eq_ok_iff.mp hdecode).2.2.1

/-- Six bytes in the envelope of the compressor that passes data on as it is. -/
def EnvelopeHeader.wrapped : Bytes :=
  Header.encode ⟨31, 9, 7, 2012⟩ ++ EnvelopeHeader.encode ⟨2013, 6, 0, ⟨31, 9, 7, 2012⟩⟩ ++
    [1, 2, 3, 4, 5, 6]

/-- An open connection that knows this compressor, with the envelope ready to be read. -/
def ConnectionStatus.wrapped : ConnectionStatus ReadyPeer :=
  { (ReadyPeer.connection ⟨[⟨.noop, 0⟩]⟩).start (.having EnvelopeHeader.wrapped) .initial with
    phase := .opened
    hasStream := true }

/-- It is received with a read of the fifteen bytes that the header announces and a spare buffer for
the six that the envelope declares. -/
theorem receiving_bounded_wrapped :
    let connection := ReadyPeer.connection ⟨[⟨.noop, 0⟩]⟩
    let journal := ((Operation.perform connection (.receive .awaited 7)).after .wrapped).journal
    (.asked 15 ∈ journal ∧ (15 = 16 ∨ 15 + 16 ≤ 48000000) ∧
      .spared 6 ∈ journal ∧ 6 + 16 ≤ 48000000) ∧
    ∃ response next, connection.receiveWithin .awaited 31 .wrapped = .ok response next ∧
      ∃ header body, connection.Reads .awaited 31 .wrapped header body ∧
        if header.isEnvelope then
          ∃ envelope, EnvelopeHeader.decode body.bytes header = .ok envelope ∧
            response.body.bytes.length = envelope.uncompressedSize.toNat
        else response.body.bytes.length + 16 = header.messageLength.toNat := by
  intro connection journal
  obtain ⟨hasked, hlength, -, -⟩ := receiving_bounded connection .wrapped
  obtain ⟨fresh, hjournal, hreads, hspares⟩ := hasked (.receive .awaited 7) nofun
  have hfresh : fresh = [.logged _, .asked 16, .asked 15, .spared 6] := hjournal.symm
  have hread : Happening.asked 15 ∈ fresh := by simp [hfresh]
  have hspare : Happening.spared 6 ∈ fresh := by simp [hfresh]
  have hall : journal = fresh := hjournal
  rw [hall]
  exact ⟨⟨hread, hreads 15 hread, hspare, hspares 6 hspare⟩, _, _, rfl, hlength .awaited 31 _ _ rfl⟩

end CommandLink
