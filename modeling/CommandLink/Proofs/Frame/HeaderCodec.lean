import CommandLink.Frame.Envelope
import CommandLink.Proofs.Bytes

/-!
# Headers written and read

Reading the front of a message gives back the header that was written there, whatever follows, and
writing a header that was read gives back the bytes it was read from. The header of a message and
the header of an envelope each have both laws, so the layout of either is said in one place.

A header is read under a limit. `Header.decode_eq_ok_iff` says exactly when: the length it tells
covers the header itself and keeps to the limit. `headers_read_back` has the laws of both headers
together.
-/

namespace CommandLink

namespace Header

/-! ## The header of a message -/

@[simp] theorem length_encode (header : Header) : header.encode.length = size := by
  simp only [encode, List.length_append, Bytes.length_ofUInt32, Bytes.length_ofInt32, size]

/-- What follows a written header. -/
theorem drop_encode_append (header : Header) (rest : Bytes) :
    (header.encode ++ rest).drop size = rest :=
  List.drop_left' header.length_encode

/-- The fields that were written are the fields that are read. -/
@[simp] theorem fields_encode_append (header : Header) (rest : Bytes) :
    fields (header.encode ++ rest) = header := by
  have hdrop : ∀ n, (header.encode ++ rest).drop (n + 4) =
      ((header.encode ++ rest).drop n).drop 4 :=
    fun n => List.drop_drop.symm
  simp only [fields, hdrop 8, hdrop 4]
  simp only [encode, List.append_assoc, Bytes.drop_ofUInt32_append,
    Bytes.toUInt32_ofUInt32_append, Bytes.toInt32_ofInt32_append]

/-- Four fields in a row are the bytes they were read from. -/
theorem encode_fields {data : Bytes} (h : size ≤ data.length) :
    (fields data).encode = data.take size := by
  have h4 : 4 ≤ (data.drop 4).length := by rw [List.length_drop]; simp only [size] at h; omega
  have h8 : 4 ≤ (data.drop 8).length := by rw [List.length_drop]; simp only [size] at h; omega
  have h12 : 4 ≤ (data.drop 12).length := by rw [List.length_drop]; simp only [size] at h; omega
  have h0 : 4 ≤ data.length := Nat.le_trans (by decide) h
  simp only [encode, fields, Bytes.ofUInt32_toUInt32 h0, Bytes.ofUInt32_toUInt32 h4,
    Bytes.ofUInt32_toUInt32 h8, Bytes.ofInt32_toInt32 h12]
  calc data.take 4 ++ (data.drop 4).take 4 ++ (data.drop 8).take 4 ++ (data.drop 12).take 4
      = data.take 8 ++ (data.drop 8).take 4 ++ (data.drop 12).take 4 := by rw [← List.take_add]
    _ = data.take 12 ++ (data.drop 12).take 4 := by rw [← List.take_add]
    _ = data.take size := by rw [← List.take_add, size]

/-- **When a header is accepted**: sixteen bytes are there, and the length they tell covers the
header and keeps to the limit. -/
theorem decode_eq_ok_iff {data : Bytes} {limit : Nat} {header : Header} :
    decode data limit = .ok header ↔
      size ≤ data.length ∧ header = fields data ∧
        size ≤ header.messageLength.toNat ∧ header.messageLength.toNat ≤ limit := by
  unfold decode
  simp only [Bytes.holds_iff]
  constructor
  · intro h
    split at h
    · cases h
    · rename_i hsize
      split at h
      · cases h
      · split at h
        · cases h
        · cases h
          exact ⟨Decidable.not_not.mp hsize, rfl, by omega, by omega⟩
  · rintro ⟨hsize, rfl, hlow, hhigh⟩
    rw [if_neg (not_not_intro hsize), if_neg (by omega), if_neg (by omega)]

/-- A header that was written is accepted when its length is in range, whatever follows. -/
theorem decode_encode_append {header : Header} {limit : Nat} (rest : Bytes)
    (hlow : size ≤ header.messageLength.toNat) (hhigh : header.messageLength.toNat ≤ limit) :
    decode (header.encode ++ rest) limit = .ok header := by
  refine decode_eq_ok_iff.mpr ⟨?_, (header.fields_encode_append rest).symm, hlow, hhigh⟩
  rw [List.length_append, length_encode]
  exact Nat.le_add_right _ _

/-- The header of a message that is all there: it is accepted when it counts the message and the
message keeps to the limit. -/
theorem decode_message {header : Header} {rest bytes : Bytes} {limit : Nat}
    (hbytes : bytes = header.encode ++ rest) (hcount : header.messageLength.toNat = bytes.length)
    (hlimit : bytes.length ≤ limit) : decode bytes limit = .ok header := by
  subst hbytes
  refine decode_encode_append rest ?_ (hcount ▸ hlimit)
  rw [hcount, List.length_append, length_encode]
  exact Nat.le_add_right _ _

/-- Whatever keeps a header from being accepted is a fault of framing. -/
theorem error_of_decode {data : Bytes} {limit : Nat} {error : LinkError}
    (h : decode data limit = .error error) : ∃ fault, error = .protocolFraming fault := by
  dsimp only [decode] at h
  split at h
  · exact ⟨_, (Except.error.inj h).symm⟩
  · split at h
    · exact ⟨_, (Except.error.inj h).symm⟩
    · split at h
      · exact ⟨_, (Except.error.inj h).symm⟩
      · cases h

/-- **When a header that was written is accepted**: its length is in range, whatever follows. -/
theorem decode_encode_append_iff {header : Header} {limit : Nat} {rest : Bytes} :
    decode (header.encode ++ rest) limit = .ok header ↔
      size ≤ header.messageLength.toNat ∧ header.messageLength.toNat ≤ limit := by
  constructor
  · intro h
    exact (decode_eq_ok_iff.mp h).2.2
  · rintro ⟨hlow, hhigh⟩
    exact decode_encode_append rest hlow hhigh

/-- Any other header that was written is a fault of framing. -/
theorem decode_encode_append_of_not {header : Header} {limit : Nat} {rest : Bytes}
    (h : ¬ (size ≤ header.messageLength.toNat ∧ header.messageLength.toNat ≤ limit)) :
    ∃ fault, decode (header.encode ++ rest) limit = .error (.protocolFraming fault) := by
  cases hdecode : decode (header.encode ++ rest) limit with
  | ok found =>
    -- only the header that stands there could have been found, and it is out of range
    obtain ⟨-, rfl, hrange⟩ := decode_eq_ok_iff.mp hdecode
    rw [fields_encode_append] at hrange
    exact absurd hrange h
  | error error =>
    obtain ⟨fault, rfl⟩ := error_of_decode hdecode
    exact ⟨fault, rfl⟩

/-- An accepted header is written back as the bytes that it was read from. -/
theorem encode_of_decode {data : Bytes} {limit : Nat} {header : Header}
    (h : decode data limit = .ok header) : header.encode = data.take size := by
  obtain ⟨hsize, rfl, -, -⟩ := decode_eq_ok_iff.mp h
  exact encode_fields hsize

/-- Writing over the front of a message replaces its header and touches nothing else. -/
theorem overFront_encode_append (header front : Header) (rest : Bytes) :
    header.overFront (front.encode ++ rest) = header.encode ++ rest := by
  have overwrite_front : ∀ (before field fresh after : Bytes), field.length = fresh.length →
      Bytes.overwrite (before ++ (field ++ after)) before.length fresh =
        before ++ (fresh ++ after) := by
    intro before field fresh after same
    unfold Bytes.overwrite
    rw [List.take_left, List.append_assoc, ← same, ← List.drop_drop, List.drop_left,
      List.drop_left]
  have first := overwrite_front [] (Bytes.ofUInt32 front.messageLength)
    (Bytes.ofUInt32 header.messageLength)
    (Bytes.ofUInt32 front.requestId ++ (Bytes.ofUInt32 front.responseTo ++
      (Bytes.ofInt32 front.opcode ++ rest))) (by simp)
  have second := overwrite_front (Bytes.ofUInt32 header.messageLength)
    (Bytes.ofUInt32 front.requestId) (Bytes.ofUInt32 header.requestId)
    (Bytes.ofUInt32 front.responseTo ++ (Bytes.ofInt32 front.opcode ++ rest)) (by simp)
  have third := overwrite_front
    (Bytes.ofUInt32 header.messageLength ++ Bytes.ofUInt32 header.requestId)
    (Bytes.ofUInt32 front.responseTo) (Bytes.ofUInt32 header.responseTo)
    (Bytes.ofInt32 front.opcode ++ rest) (by simp)
  have fourth := overwrite_front
    (Bytes.ofUInt32 header.messageLength ++ Bytes.ofUInt32 header.requestId ++
      Bytes.ofUInt32 header.responseTo)
    (Bytes.ofInt32 front.opcode) (Bytes.ofInt32 header.opcode) rest (by simp)
  simp only [List.length_append, Bytes.length_ofUInt32, List.length_nil, List.nil_append,
    List.append_assoc, Nat.reduceAdd] at first second third fourth
  simp only [overFront, encode, List.append_assoc]
  rw [first, second, third, fourth]

/-- So it does where the front is any sixteen bytes: these are a header too. -/
theorem overFront_eq (header : Header) {buffer : Bytes} (h : size ≤ buffer.length) :
    header.overFront buffer = header.encode ++ buffer.drop size := by
  calc header.overFront buffer
      = header.overFront ((fields buffer).encode ++ buffer.drop size) := by
        rw [encode_fields h, List.take_append_drop]
    _ = header.encode ++ buffer.drop size := overFront_encode_append _ _ _

end Header

namespace EnvelopeHeader

/-! ## The header of an envelope -/

@[simp] theorem length_encode (envelope : EnvelopeHeader) : envelope.encode.length = size := by
  simp only [encode, List.length_append, Bytes.length_ofInt32, Bytes.length_ofUInt32,
    List.length_singleton, size]

/-- What follows a written header. -/
theorem drop_encode_append (envelope : EnvelopeHeader) (rest : Bytes) :
    (envelope.encode ++ rest).drop size = rest :=
  List.drop_left' envelope.length_encode

/-- The fields that were written are read again, under any header of the message. -/
theorem decode_encode_append (envelope : EnvelopeHeader) (rest : Bytes) (outer : Header) :
    decode (envelope.encode ++ rest) outer = .ok { envelope with outer } := by
  have hsize : Bytes.holds (envelope.encode ++ rest) size = true := by
    rw [Bytes.holds_iff, List.length_append, length_encode]
    exact Nat.le_add_right _ _
  have hid : (envelope.encode ++ rest).getD 8 0 = envelope.compressorId := by
    have hbefore : (Bytes.ofInt32 envelope.innerOpcode ++
        Bytes.ofUInt32 envelope.uncompressedSize).length = 8 := by simp
    rw [encode, List.append_assoc, List.getD_eq_getElem?_getD,
      List.getElem?_append_right (by omega), hbefore]
    rfl
  unfold decode
  rw [if_neg (by simp [hsize]), hid]
  simp only [encode, List.append_assoc, Bytes.toInt32_ofInt32_append, Bytes.drop_ofInt32_append,
    Bytes.toUInt32_ofUInt32_append]

/-- **When the header of an envelope is accepted**: nine bytes are there, and they are what the
header is written as. -/
theorem decode_eq_ok {body : Bytes} {outer : Header} {envelope : EnvelopeHeader}
    (h : decode body outer = .ok envelope) :
    envelope.outer = outer ∧ body = envelope.encode ++ body.drop size := by
  unfold decode at h
  split at h
  · cases h
  · rename_i hheld
    have hsize : size ≤ body.length := Bytes.holds_iff.mp (Decidable.not_not.mp hheld)
    cases h
    refine ⟨rfl, ?_⟩
    have h0 : 4 ≤ body.length := Nat.le_trans (by decide) hsize
    have h4 : 4 ≤ (body.drop 4).length := by rw [List.length_drop]; simp only [size] at hsize; omega
    have h8 : 8 < body.length := hsize
    have hlast : [body.getD 8 0] = (body.drop 8).take 1 := by
      rw [List.getD_eq_getElem?_getD, List.getElem?_eq_getElem h8, Option.getD_some,
        List.drop_eq_getElem_cons h8, List.take_succ_cons, List.take_zero]
    simp only [encode, Bytes.ofInt32_toInt32 h0, Bytes.ofUInt32_toUInt32 h4, hlast]
    calc body = body.take size ++ body.drop size := (List.take_append_drop _ _).symm
      _ = body.take 4 ++ (body.drop 4).take 4 ++ (body.drop 8).take 1 ++ body.drop size := by
        rw [← List.take_add, ← List.take_add, size]

/-- Nine bytes are enough, and whatever they are they are written back. -/
theorem exists_decode {body : Bytes} (outer : Header) (h : size ≤ body.length) :
    ∃ envelope, decode body outer = .ok envelope ∧ envelope.outer = outer ∧
      envelope.encode = body.take size := by
  have hheld : Bytes.holds body size = true := Bytes.holds_iff.mpr h
  obtain ⟨envelope, hdecode⟩ : ∃ envelope, decode body outer = .ok envelope := by
    unfold decode
    rw [if_neg (not_not_intro hheld)]
    exact ⟨_, rfl⟩
  obtain ⟨houter, hbody⟩ := decode_eq_ok hdecode
  refine ⟨envelope, hdecode, houter, ?_⟩
  rw [hbody, List.take_left' envelope.length_encode]

/-- The header of the message inside keeps the ids of the envelope, and tells the size of a body
that a length field can count. -/
theorem inner_eq {envelope : EnvelopeHeader} {bodyLength : Nat}
    (hsize : envelope.uncompressedSize.toNat = bodyLength)
    (hfits : bodyLength + Header.size < UInt32.size) :
    envelope.inner = ⟨UInt32.ofNat (Header.size + bodyLength), envelope.outer.requestId,
      envelope.outer.responseTo, envelope.innerOpcode⟩ := by
  unfold inner
  rw [hsize, Nat.min_eq_left (Nat.le_sub_one_of_lt hfits), Nat.add_comm]

end EnvelopeHeader

/-! ## Both -/

/-- **Headers are read back.** A header that was written is accepted, whatever follows it, just if
its length covers itself and keeps to the limit, and is a fault of framing otherwise. Whatever bytes
a header is read from, it is written as the first sixteen of them. Writing over the front of a
buffer puts the same sixteen bytes there and touches nothing behind them. The header of an envelope
is always read back, under the outer header at hand, and any nine bytes are one. -/
theorem headers_read_back :
    (∀ (header : Header) (limit : Nat) (rest : Bytes),
      (Header.decode (header.encode ++ rest) limit = .ok header ↔
        Header.size ≤ header.messageLength.toNat ∧ header.messageLength.toNat ≤ limit) ∧
      (¬ (Header.size ≤ header.messageLength.toNat ∧ header.messageLength.toNat ≤ limit) →
        ∃ fault,
          Header.decode (header.encode ++ rest) limit = .error (.protocolFraming fault))) ∧
    (∀ (data : Bytes) (limit : Nat) (header : Header),
      Header.decode data limit = .ok header → header.encode = data.take Header.size) ∧
    (∀ (header : Header) (buffer : Bytes), Header.size ≤ buffer.length →
      header.overFront buffer = header.encode ++ buffer.drop Header.size) ∧
    (∀ (envelope : EnvelopeHeader) (rest : Bytes) (outer : Header),
      EnvelopeHeader.decode (envelope.encode ++ rest) outer = .ok { envelope with outer }) ∧
    ∀ (body : Bytes) (outer : Header), EnvelopeHeader.size ≤ body.length →
      ∃ envelope, EnvelopeHeader.decode body outer = .ok envelope ∧ envelope.outer = outer ∧
        envelope.encode = body.take EnvelopeHeader.size := by
  refine ⟨fun header limit rest => ⟨?_, ?_⟩, ?_, ?_, ?_, ?_⟩
  · exact Header.decode_encode_append_iff
  · exact Header.decode_encode_append_of_not
  · intro data limit header hdecode
    exact Header.encode_of_decode hdecode
  · intro header buffer hsize
    exact header.overFront_eq hsize
  · intro envelope rest outer
    exact envelope.decode_encode_append rest outer
  · intro body outer hsize
    exact EnvelopeHeader.exists_decode outer hsize

/-- A header without a body keeps to a limit of sixteen bytes and not to one of fifteen. It is
written over the front of a longer buffer, and ten zero bytes are the front of an envelope. -/
theorem headers_read_back_smallest :
    let header : Header := ⟨16, 7, 3, 2013⟩
    Header.decode (header.encode ++ [1]) 16 = .ok header ∧
      (∃ fault, Header.decode (header.encode ++ [1]) 15 = .error (.protocolFraming fault)) ∧
      header.encode = (header.encode ++ [1]).take 16 ∧
      header.overFront (List.replicate 18 0) = header.encode ++ [0, 0] ∧
      ∃ envelope, EnvelopeHeader.decode (List.replicate 10 0) header = .ok envelope ∧
        envelope.encode = List.replicate 9 0 := by
  intro header
  obtain ⟨haccepted, hwritten, hover, -, henvelope⟩ := headers_read_back
  have hdecode : Header.decode (header.encode ++ [1]) 16 = .ok header :=
    (haccepted header 16 [1]).1.mpr (by decide)
  obtain ⟨envelope, hread, -, hbytes⟩ :=
    henvelope (List.replicate 10 0) header (by decide)
  exact ⟨hdecode, (haccepted header 15 [1]).2 (by decide), hwritten _ 16 header hdecode,
    hover header (List.replicate 18 0) (by decide), envelope, hread, hbytes⟩

end CommandLink
