import CommandLink.Connection.Profile
import CommandLink.Proofs.Message.Outbound

/-!
# Lengths that headers tell

A length field has 32 bits and is written without regard to that: it tells the length of a message,
or of the body in an envelope, just if this is a number of 32 bits (`lengths_told_iff`). What keeps
a message below that is the limit that the server told, and a server may tell any size. Under a
limit above 32 bits a command that names a very long database is written with the wrong length
(`long_name_miscounted`).
-/

namespace CommandLink

/-- A number is what a field of 32 bits holds of it just if it has no more. -/
theorem lengthField_eq_iff {n : Nat} : (UInt32.ofNat n).toNat = n ↔ n < UInt32.size := by
  rw [UInt32.toNat_ofNat']
  exact ⟨fun h => h ▸ Nat.mod_lt n (by decide), Nat.mod_eq_of_lt⟩

variable {message : Command} {limits : MessageLimits} {out : OutboundMessage}
  {compressor : Compressor} {packing : Packing} {bytes : Bytes}

/-! ## What is told -/

/-- The header of a message tells its length in 32 bits. -/
theorem Command.messageLength_of_encode (h : message.encode limits = .ok out) :
    (Header.fields out.bytes).messageLength = UInt32.ofNat out.bytes.length := by
  conv => lhs; rw [body_of_encode h, Header.fields_encode_append]
  rfl

/-- So does the header of an envelope. -/
theorem OutboundMessage.messageLength_of_compress
    (h : out.compress compressor limits packing = .ok bytes) :
    (Header.fields bytes).messageLength = UInt32.ofNat bytes.length := by
  obtain ⟨packed, -, -, hbytes⟩ := compress_eq_ok h
  conv => lhs; rw [hbytes, Header.fields_encode_append]
  rfl

/-- An envelope tells the length of the body inside in 32 bits. -/
theorem OutboundMessage.uncompressedSize_of_compress
    (h : out.compress compressor limits packing = .ok bytes) :
    ∃ envelope,
      EnvelopeHeader.decode (bytes.drop Header.size) (Header.fields bytes) = .ok envelope ∧
      envelope.uncompressedSize = UInt32.ofNat out.body.length := by
  obtain ⟨packed, -, -, hbytes⟩ := compress_eq_ok h
  have hrest : bytes.drop Header.size =
      (out.envelopeHeader compressor bytes.length).encode ++ packed := by
    conv => lhs; rw [hbytes, Header.drop_encode_append]
  rw [hrest, EnvelopeHeader.decode_encode_append]
  exact ⟨_, rfl, rfl⟩

/-- The body of a message is no longer than the message. -/
theorem OutboundMessage.length_body_le (out : OutboundMessage) :
    out.body.length ≤ out.bytes.length := by
  rw [body, List.length_drop]
  exact Nat.sub_le _ _

/-- **When the lengths that headers tell are right.** For whatever profile a reply tells, and any
command that is put into bytes under its limits: the header tells the length of the message just if
this is a number of 32 bits. Of any envelope that the message is put in the same is so, and of the
size of the body that the envelope tells. They all are if the reply tells no limit above 32 bits. -/
theorem lengths_told_iff {current : ConnectionProfile} {reply : Document}
    (hencode : message.encode (current.ofReply reply).limits = .ok out) :
    ((Header.fields out.bytes).messageLength.toNat = out.bytes.length ↔
      out.bytes.length < UInt32.size) ∧
    (∀ compressor packing bytes,
      out.compress compressor (current.ofReply reply).limits packing = .ok bytes →
      ((Header.fields bytes).messageLength.toNat = bytes.length ↔ bytes.length < UInt32.size) ∧
      ∃ envelope,
        EnvelopeHeader.decode (bytes.drop Header.size) (Header.fields bytes) = .ok envelope ∧
        (envelope.uncompressedSize.toNat = out.body.length ↔ out.body.length < UInt32.size)) ∧
    ((∀ limit, ConnectionProfile.sizeIn? reply "maxMessageSizeBytes" = some limit →
        limit < UInt32.size) →
      out.bytes.length < UInt32.size ∧ out.body.length < UInt32.size ∧
      ∀ compressor packing bytes,
        out.compress compressor (current.ofReply reply).limits packing = .ok bytes →
        bytes.length < UInt32.size) := by
  refine ⟨?_, fun compressor packing bytes hcompress => ⟨?_, ?_⟩, fun htold => ?_⟩
  · rw [Command.messageLength_of_encode hencode, lengthField_eq_iff]
  · rw [OutboundMessage.messageLength_of_compress hcompress, lengthField_eq_iff]
  · obtain ⟨envelope, henvelope, hsize⟩ := OutboundMessage.uncompressedSize_of_compress hcompress
    refine ⟨envelope, henvelope, ?_⟩
    rw [hsize, lengthField_eq_iff]
  · have hlimit : (current.ofReply reply).limits.messageSize < UInt32.size := by
      dsimp only [ConnectionProfile.ofReply]
      cases hsize : ConnectionProfile.sizeIn? reply "maxMessageSizeBytes" with
      | none => exact show 48000000 < UInt32.size by decide
      | some limit => exact htold limit hsize
    obtain ⟨-, -, -, -, hlength, -⟩ := Command.encode_eq_ok hencode
    have hbytes : out.bytes.length < UInt32.size := Nat.lt_of_le_of_lt hlength hlimit
    refine ⟨hbytes, Nat.lt_of_le_of_lt out.length_body_le hbytes, ?_⟩
    intro compressor packing bytes hcompress
    obtain ⟨-, -, hlength, -⟩ := OutboundMessage.compress_eq_ok hcompress
    exact Nat.lt_of_le_of_lt hlength hlimit

/-- A server that tells a limit of 32 bits has a ping counted right. -/
theorem lengths_told_iff_ping :
    ∃ out, (Command.ofCommand 7 "app" [("ping", .int32 1)]).encode
        ((ConnectionProfile.initial ⟨.ofAddress ⟨"mock", 27017⟩, 1, none⟩).ofReply
          [("maxMessageSizeBytes", .int64 4294967295)]).limits = .ok out ∧
      (Header.fields out.bytes).messageLength.toNat = out.bytes.length := by
  refine ⟨_, rfl, ?_⟩
  obtain ⟨hexact, -, hbounded⟩ := @lengths_told_iff (.ofCommand 7 "app" [("ping", .int32 1)]) _
    (.initial ⟨.ofAddress ⟨"mock", 27017⟩, 1, none⟩)
    [("maxMessageSizeBytes", .int64 4294967295)] rfl
  obtain ⟨hlength, -⟩ := hbounded (by rintro limit ⟨⟩; decide)
  exact hexact.mpr hlength

/-! ## What is written under any limit -/

/-- **A command is put into bytes** if its document and the message keep to the limits. -/
theorem Command.exists_encode {document : Bytes}
    (hdocument : message.document.encode? = some document)
    (hsize : document.length ≤ limits.documentSize)
    (hroom : Header.size + (message.preamble.length + document.length) ≤ limits.messageSize) :
    ∃ out, message.encode limits = .ok out ∧
      out.bytes.length = Header.size + (message.preamble.length + document.length) := by
  have hlength : ((message.header 0).encode ++ message.preamble ++ document).length =
      Header.size + (message.preamble.length + document.length) := by
    simp only [List.length_append, Header.length_encode, Nat.add_assoc]
  unfold encode
  simp only [hdocument]
  rw [if_neg (Nat.not_lt.mpr hsize), if_neg (by rw [hlength]; exact Nat.not_lt.mpr hroom)]
  refine ⟨_, rfl, ?_⟩
  rw [List.append_assoc, Header.overFront_encode_append]
  simp only [List.length_append, Header.length_encode]

/-- **A message is put in a plain envelope** if that keeps to the limit. -/
theorem OutboundMessage.exists_compress
    (hroom : Header.size + EnvelopeHeader.size + out.body.length ≤ limits.messageSize) :
    ∃ bytes, out.compress ⟨.noop, 0⟩ limits packing = .ok bytes ∧
      bytes.length = Header.size + EnvelopeHeader.size + out.body.length := by
  unfold compress
  simp only [Compressor.pack]
  rw [if_neg (Nat.not_lt.mpr hroom)]
  refine ⟨_, rfl, ?_⟩
  simp only [List.length_append, Header.length_encode, EnvelopeHeader.length_encode]

/-! ## A message that is too long for its header -/

/-- A name of so many equal letters takes so many bytes. -/
theorem Bytes.length_ofText_replicate (n : Nat) :
    (ofText (String.ofList (List.replicate n 'a'))).length = n := by
  rw [ofText_eq_flatMap, String.toList_ofList, List.length_flatMap, List.map_replicate,
    List.sum_replicate_nat]
  exact Nat.mul_one n

/-- What a legacy command has in front of its document grows with the name of its database. -/
theorem Command.length_preamble_legacy (requestId : UInt32) (database : String)
    (command : Document) :
    (ofCommand requestId database command).legacy.preamble.length =
      (Bytes.ofText database).length + 18 := by
  have htarget : (Bytes.ofText ("." ++ CollectionName.commandTarget)).length = 5 := by decide
  have hname : (Bytes.ofText (CollectionName.ofCommand database).qualified).length =
      (Bytes.ofText database).length + 5 := by
    rw [← htarget, CollectionName.qualified, String.append_assoc]
    simp only [Bytes.ofText_eq_flatMap, String.toList_append, List.flatMap_append,
      List.length_append]
    rfl
  simp only [preamble, ofCommand, legacy, List.length_append, Bytes.length_ofInt32, hname,
    List.length_singleton]
  omega

/-- **A long name is miscounted.** A server tells a limit of 33 bits. A legacy ping of a database
with a name of `2 ^ 32` letters keeps to it, and so does an envelope around it. Their headers tell
49 and 58 bytes, and the envelope a body of 33. -/
theorem long_name_miscounted :
    let profile := (ConnectionProfile.initial ⟨.ofAddress ⟨"mock", 27017⟩, 1, none⟩).ofReply
      [("maxMessageSizeBytes", .int64 8589934592)]
    let ping := (Command.ofCommand 7 (String.ofList (List.replicate 4294967296 'a'))
      [("ping", .int32 1)]).legacy
    ∃ out bytes envelope, ping.encode profile.limits = .ok out ∧
      out.bytes.length = 4294967345 ∧ (Header.fields out.bytes).messageLength = 49 ∧
      out.compress ⟨.noop, 0⟩ profile.limits = .ok bytes ∧
      bytes.length = 4294967354 ∧ (Header.fields bytes).messageLength = 58 ∧
      EnvelopeHeader.decode (bytes.drop Header.size) (Header.fields bytes) = .ok envelope ∧
      out.body.length = 4294967329 ∧ envelope.uncompressedSize = 33 := by
  intro profile ping
  have hpreamble : ping.preamble.length = 4294967296 + 18 := by
    rw [Command.length_preamble_legacy, Bytes.length_ofText_replicate]
  have hlimits : profile.limits = ⟨16777216, 8589934592, 1000⟩ := rfl
  obtain ⟨document, hdocument, hsize⟩ :
      ∃ document, ping.document.encode? = some document ∧ document.length = 15 := ⟨_, rfl, rfl⟩
  obtain ⟨out, hencode, hlength⟩ := @Command.exists_encode ping profile.limits _ hdocument
    (by rw [hsize, hlimits]; decide) (by rw [hsize, hpreamble, hlimits]; decide)
  rw [hsize, hpreamble] at hlength
  have hbody : out.body.length = 4294967329 := by
    rw [OutboundMessage.body, List.length_drop, hlength]
    rfl
  obtain ⟨bytes, hcompress, hbytes⟩ := @OutboundMessage.exists_compress profile.limits out .plain
    (by rw [hbody, hlimits]; decide)
  rw [hbody] at hbytes
  obtain ⟨envelope, henvelope, huncompressed⟩ :=
    OutboundMessage.uncompressedSize_of_compress hcompress
  refine ⟨out, bytes, envelope, hencode, hlength, ?_, hcompress, hbytes, ?_, henvelope, hbody, ?_⟩
  · rw [Command.messageLength_of_encode hencode, hlength]
    rfl
  · rw [OutboundMessage.messageLength_of_compress hcompress, hbytes]
    rfl
  · rw [huncompressed, hbody]
    rfl

end CommandLink
