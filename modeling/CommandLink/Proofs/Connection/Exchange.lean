import CommandLink.Connection.Exchange
import CommandLink.Proofs.Connection.Action
import CommandLink.Proofs.Frame.HeaderCodec

/-!
# What receiving makes of bytes

What a connection makes of the header and the body of a message depends on nothing but the
compressors it was built with and the limit in force: it is `Connection.content`, and assembling a
message gives just that, in a buffer of its own where the message came in an envelope
(`assemble_eq`).
-/

namespace CommandLink

variable {σ α : Type}

/-- States that are alike but for what was written down and the buffers that were lent. -/
def ConnectionStatus.Alike (state next : ConnectionStatus σ) : Prop :=
  ∃ ledger journal, next = { state with ledger, journal }

namespace ConnectionStatus.Alike

theorem refl (state : ConnectionStatus σ) : state.Alike state := ⟨_, _, rfl⟩

theorem trans {state mid next : ConnectionStatus σ} (hfirst : state.Alike mid)
    (hsecond : mid.Alike next) : state.Alike next := by
  obtain ⟨_, _, rfl⟩ := hfirst
  obtain ⟨ledger, journal, rfl⟩ := hsecond
  exact ⟨ledger, journal, rfl⟩

theorem note (state : ConnectionStatus σ) (happening : Happening) :
    state.Alike (state.note happening) := ⟨_, _, rfl⟩

theorem drop (state : ConnectionStatus σ) (buffer : Buffer) : state.Alike (state.drop buffer) :=
  ⟨_, _, rfl⟩

end ConnectionStatus.Alike

namespace Connection

variable {connection : Connection σ}

/-! ## What bytes mean -/

/-- The message inside an envelope: its header and its body. -/
def unpacked (connection : Connection σ) (limit : Nat) (header : Header) (body : Bytes) :
    Except LinkError (InboundHeader × Bytes) := do
  let envelope ← EnvelopeHeader.decode body header
  let (compressor, size) ← connection.planUnpacking envelope limit
  let fill := compressor.uncompress (body.drop EnvelopeHeader.size) size []
  match fill.result with
  | .ok _ => .ok (envelope.toInbound, fill.buffer)
  | .error fault => .error (.protocolFraming (.undecompressed compressor.name fault.message))

/-- The message that a header and a body make up, out of its envelope if it came in one. -/
def content (connection : Connection σ) (limit : Nat) (header : Header) (body : Bytes) :
    Except LinkError (InboundHeader × Bytes) :=
  if header.isEnvelope then connection.unpacked limit header body
  else .ok (header.toInbound, body)

/-- Bytes that are one whole message: they begin with a header whose length field counts them all
and keeps to the limit. -/
structure IsMessage (limit : Nat) (frame : Bytes) : Prop where
  covers : Header.size ≤ (Header.fields frame).messageLength.toNat
  within : (Header.fields frame).messageLength.toNat ≤ limit
  whole : frame.length = (Header.fields frame).messageLength.toNat

/-- What a connection makes of one whole message. -/
def reading (connection : Connection σ) (limit : Nat) (frame : Bytes) :
    Except LinkError (InboundHeader × Bytes) :=
  connection.content limit (Header.fields frame) (frame.drop Header.size)

/-- A header that counts itself and what follows it makes a message of the two. -/
theorem isMessage_encode_append {header : Header} {body : Bytes} {limit : Nat}
    (hcount : header.messageLength.toNat = Header.size + body.length)
    (hlimit : Header.size + body.length ≤ limit) : IsMessage limit (header.encode ++ body) where
  covers := by
    rw [Header.fields_encode_append, hcount]
    exact Nat.le_add_right _ _
  within := by
    rw [Header.fields_encode_append, hcount]
    exact hlimit
  whole := by rw [Header.fields_encode_append, hcount, List.length_append, Header.length_encode]

/-- A message is a header and what follows it. -/
theorem IsMessage.exists_header {limit : Nat} {frame : Bytes} (h : IsMessage limit frame) :
    ∃ header body, frame = Header.encode header ++ body ∧ body.length = header.bodySize ∧
      Header.decode header.encode limit = .ok header := by
  have hheld : Header.size ≤ frame.length := h.whole ▸ h.covers
  refine ⟨Header.fields frame, frame.drop Header.size, ?_, ?_, ?_⟩
  · rw [Header.encode_fields hheld, List.take_append_drop]
  · rw [List.length_drop, h.whole, Header.bodySize]
  · have hdecode := Header.decode_encode_append [] h.covers h.within
    rwa [List.append_nil] at hdecode

theorem reading_encode_append (connection : Connection σ) (limit : Nat) (header : Header)
    (body : Bytes) :
    connection.reading limit (header.encode ++ body) = connection.content limit header body := by
  rw [reading, Header.fields_encode_append, Header.drop_encode_append]

/-- What is planned for an envelope: its compressor is known, and the size that it declares fits the
limit beside a header. -/
theorem planUnpacking_eq_ok {envelope : EnvelopeHeader} {limit : Nat} {plan : Compressor × Nat}
    (h : connection.planUnpacking envelope limit = .ok plan) :
    connection.compressors.require envelope.compressorId = .ok plan.1 ∧
      plan.2 = envelope.uncompressedSize.toNat ∧ plan.2 + Header.size ≤ limit := by
  unfold planUnpacking at h
  cases hrequire : connection.compressors.require envelope.compressorId with
  | error fault =>
    rw [hrequire] at h
    cases h
  | ok compressor =>
    rw [hrequire] at h
    simp only [bind, Except.bind] at h
    split at h
    · cases h
    · rename_i hfits
      cases h
      exact ⟨rfl, rfl, Nat.le_of_not_lt hfits⟩

/-- What came out of an envelope: the compressor that was planned unpacked it. -/
theorem unpacked_eq_ok {limit : Nat} {header : Header} {body bytes : Bytes}
    {inbound : InboundHeader} (h : connection.unpacked limit header body = .ok (inbound, bytes)) :
    ∃ envelope plan, EnvelopeHeader.decode body header = .ok envelope ∧
      connection.planUnpacking envelope limit = .ok plan ∧ inbound = envelope.toInbound ∧
      plan.1.uncompress (body.drop EnvelopeHeader.size) plan.2 [] = ⟨bytes, .ok ()⟩ := by
  unfold unpacked at h
  cases henvelope : EnvelopeHeader.decode body header with
  | error fault =>
    rw [henvelope] at h
    cases h
  | ok envelope =>
    cases hplan : connection.planUnpacking envelope limit with
    | error fault =>
      simp only [bind, Except.bind, henvelope, hplan] at h
      cases h
    | ok plan =>
      simp only [bind, Except.bind, henvelope, hplan] at h
      cases hfill : plan.1.uncompress (body.drop EnvelopeHeader.size) plan.2 [] with
      | mk buffer result =>
        rw [hfill] at h
        cases result with
        | error fault => cases h
        | ok _ =>
          cases h
          exact ⟨envelope, plan, rfl, hplan, rfl, hfill⟩

/-- The message inside an envelope answers what the envelope answers. -/
theorem responseTo_of_content {limit : Nat} {header : Header} {body bytes : Bytes}
    {inbound : InboundHeader} (h : connection.content limit header body = .ok (inbound, bytes)) :
    inbound.responseTo = header.responseTo := by
  unfold content at h
  split at h
  · obtain ⟨envelope, _, hdecode, -, rfl, -⟩ := unpacked_eq_ok h
    obtain ⟨rfl, -⟩ := EnvelopeHeader.decode_eq_ok hdecode
    rfl
  · cases h
    rfl

/-! ## What is assembled -/

/-- A spare buffer is empty. -/
theorem spareBuffer_eq (connection : Connection σ) (size : Nat) (state : ConnectionStatus σ) :
    ∃ loan next, connection.spareBuffer size state = .ok ⟨[], loan⟩ next ∧ state.Alike next := by
  unfold spareBuffer
  cases hspares : connection.transport.lendsSpares with
  | true => exact ⟨_, _, rfl, _, _, rfl⟩
  | false => exact ⟨_, _, rfl, _, _, rfl⟩

/-- An action that gives what a computation gives, with bytes in a buffer, and otherwise only
writes down what it did and deals with buffers. -/
def Gives (operation : Action σ Response) (result : Except LinkError (InboundHeader × Bytes)) :
    Prop :=
  ∀ state, ∃ next, state.Alike next ∧
    ((∃ error, result = .error error ∧ operation state = .error error next) ∨
      ∃ header bytes loan, result = .ok (header, bytes) ∧
        operation state = .ok ⟨header, bytes, loan⟩ next)

theorem unpack_gives (connection : Connection σ) (header : Header) (body : Bytes) (limit : Nat) :
    Gives (connection.unpack header body limit) (connection.unpacked limit header body) := by
  intro state
  unfold unpack unpacked
  cases henvelope : EnvelopeHeader.decode body header with
  | error fault => exact ⟨state, .refl state, .inl ⟨fault, rfl, Action.ofResult_bind_of_error rfl⟩⟩
  | ok envelope =>
    rw [Action.ofResult_bind_of_ok rfl]
    cases hplan : connection.planUnpacking envelope limit with
    | error fault =>
      refine ⟨state, .refl state, .inl ⟨fault, ?_, Action.ofResult_bind_of_error rfl⟩⟩
      simp only [bind, Except.bind, hplan]
    | ok plan =>
      obtain ⟨compressor, size⟩ := plan
      obtain ⟨loan, next, hspare, halike⟩ := connection.spareBuffer_eq size state
      rw [Action.ofResult_bind_of_ok rfl]
      dsimp only
      rw [Action.bind_of_ok hspare]
      simp only [bind, Except.bind, hplan]
      cases hfill :
          (compressor.uncompress (body.drop EnvelopeHeader.size) size []).result with
      | error fault =>
        exact ⟨_, halike.trans (.drop next _), .inl ⟨_, rfl, rfl⟩⟩
      | ok _ => exact ⟨next, halike, .inr ⟨_, _, loan, rfl, rfl⟩⟩

/-- **What is assembled is the content** of a header and a body of the announced size. -/
theorem assemble_gives (connection : Connection σ) {header : Header} {body : Buffer}
    (hsize : body.bytes.length = header.bodySize) (limit : Nat) :
    Gives (connection.assemble header body limit)
      (connection.content limit header body.bytes) := by
  intro state
  unfold assemble content
  rw [if_neg (not_not_intro hsize)]
  by_cases henvelope : header.isEnvelope
  · rw [if_pos henvelope, if_pos henvelope]
    obtain ⟨next, halike, hends⟩ := connection.unpack_gives header body.bytes limit state
    refine ⟨next.drop body, halike.trans (.drop next body), ?_⟩
    rcases hends with ⟨error, hresult, hunpack⟩ | ⟨inbound, bytes, loan, hresult, hunpack⟩
    · refine .inl ⟨error, hresult, ?_⟩
      simp only [Action.holding, hunpack]
    · refine .inr ⟨inbound, bytes, loan, hresult, ?_⟩
      simp only [Action.holding, hunpack]
  · rw [if_neg henvelope, if_neg henvelope]
    exact ⟨state, .refl state, .inr ⟨_, _, body.loan, rfl, rfl⟩⟩

/-- What could be assembled had the announced size, and is the content. -/
theorem ok_of_assemble {header : Header} {body : Buffer} {limit : Nat}
    {state next : ConnectionStatus σ} {response : Response}
    (h : connection.assemble header body limit state = .ok response next) :
    body.bytes.length = header.bodySize ∧
      connection.content limit header body.bytes = .ok (response.header, response.body.bytes) ∧
      state.Alike next := by
  by_cases hsize : body.bytes.length = header.bodySize
  · obtain ⟨left, halike, hends⟩ := connection.assemble_gives hsize limit state
    rcases hends with ⟨error, -, hassemble⟩ | ⟨inbound, bytes, loan, hcontent, hassemble⟩
    · rw [hassemble] at h
      cases h
    · rw [hassemble] at h
      cases h
      exact ⟨hsize, hcontent, halike⟩
  · unfold assemble at h
    rw [if_pos hsize] at h
    cases h

/-! ## What was received -/

/-- **Receiving that succeeded** read a header that was accepted, read as many bytes as that
announces, and assembled the two. -/
theorem ok_of_receiveWithin {mode : Mode} {limit : Nat} {state next : ConnectionStatus σ}
    {response : Response} (h : connection.receiveWithin mode limit state = .ok response next) :
    ∃ front fronted header body bodied assembled,
      connection.readBuffer mode .readingHeader Header.size
          (state.log .trace "receiving message" [("address", connection.address.text)]) =
        .ok front fronted ∧
      Header.decode front.bytes limit = .ok header ∧
      connection.readBuffer mode .readingBody header.bodySize fronted = .ok body bodied ∧
      connection.assemble header body limit bodied = .ok response assembled ∧
      next = assembled.drop front := by
  obtain ⟨_, logged, hlog, h⟩ := Action.ok_of_bind h
  cases hlog
  obtain ⟨front, fronted, hfront, h⟩ := Action.ok_of_bind h
  obtain ⟨assembled, hheld, hnext⟩ := Action.ok_of_holding h
  obtain ⟨header, hdecode, hheld⟩ := Action.ok_of_ofResult_bind hheld
  obtain ⟨body, bodied, hbody, hassemble⟩ := Action.ok_of_bind hheld
  exact ⟨front, fronted, header, body, bodied, assembled, hfront, hdecode, hbody, hassemble, hnext⟩

/-- **Receiving the answer to a request** that succeeded received a message within the limit that it
found, and that was the answer. -/
theorem ok_of_receive {mode : Mode} {responseTo : UInt32} {state next : ConnectionStatus σ}
    {response : Response} (h : connection.receive mode responseTo state = .ok response next) :
    connection.receiveWithin mode state.profile.limits.messageSize state = .ok response next ∧
      response.header.responseTo = responseTo := by
  obtain ⟨-, h⟩ := ok_of_requireStream_bind h
  rw [Action.get_bind] at h
  obtain ⟨received, mid, hreceive, hpassing⟩ := Action.ok_of_bind (ok_of_closingOnFailure h)
  obtain ⟨hchecked, rfl⟩ := Action.ok_of_passing hpassing
  unfold checkAnswers at hchecked
  split at hchecked
  · rename_i hanswers
    cases hchecked
    exact ⟨hreceive, hanswers⟩
  · cases hchecked

end Connection

end CommandLink
