import CommandLink.Message.Command
import CommandLink.Proofs.Codec.Plain
import CommandLink.Proofs.Frame.HeaderCodec

/-!
# Commands written and read back

A command that could be put into bytes is read back from them: the header tells the number of
bytes and whose message it is, and its document stands at the position that was noted, byte for
byte (`Command.encode_eq_ok`). An envelope around it tells as much of the message inside, and
unpacking what it carries gives the body that was packed (`OutboundMessage.compress_eq_ok`).

Of the libraries that pack and unpack only `Unpacking.Undoes` is assumed.
-/

namespace CommandLink

namespace Command

/-- **What a command looks like in bytes**, once it is there: its header with the number of bytes,
what its form puts in front, and its document. -/
theorem encode_eq_ok {message : Command} {limits : MessageLimits} {out : OutboundMessage}
    (h : message.encode limits = .ok out) :
    ∃ document, message.document.encode? = some document ∧
      document.length ≤ limits.documentSize ∧
      out.bytes =
        (message.header out.bytes.length).encode ++ (message.preamble ++ document) ∧
      out.bytes.length ≤ limits.messageSize ∧
      out.documentPosition = Header.size + message.preamble.length ∧
      out.requestId = message.requestId ∧ out.opcode = message.opcode.value := by
  unfold encode at h
  split at h
  · cases h
  · rename_i document hdocument
    dsimp only at h
    split at h
    · cases h
    · split at h
      · cases h
      · rename_i hsize hlength
        cases h
        have hbytes : (message.header
              ((message.header 0).encode ++ message.preamble ++ document).length).overFront
              ((message.header 0).encode ++ message.preamble ++ document) =
            (message.header
              ((message.header 0).encode ++ message.preamble ++ document).length).encode ++
              (message.preamble ++ document) := by
          rw [List.append_assoc]
          exact Header.overFront_encode_append _ _ _
        have hcount : ((message.header 0).encode ++ message.preamble ++ document).length =
            ((message.header
              ((message.header 0).encode ++ message.preamble ++ document).length).encode ++
              (message.preamble ++ document)).length := by
          simp only [List.length_append, Header.length_encode, Nat.add_assoc]
        refine ⟨document, hdocument, Nat.le_of_not_lt hsize, ?_, ?_, ?_, rfl, rfl⟩
        · dsimp only
          rw [hbytes, ← hcount]
        · dsimp only
          rw [hbytes, ← hcount]
          exact Nat.le_of_not_lt hlength
        · simp only [List.length_append, Header.length_encode]

/-- The document that is sent is the command, and names the database where the present form asks for
it and the command does not do so itself. -/
theorem document_eq (message : Command) :
    message.document =
      if message.form = .msg ∧ message.command.has databaseKey = false then
        message.command ++ [(databaseKey, .string message.space.database)]
      else message.command := by
  unfold document
  cases message.form with
  | msg => cases message.command.has databaseKey <;> rfl
  | legacyQuery => rfl

/-- What follows the header of a message. -/
theorem body_of_encode {message : Command} {limits : MessageLimits} {out : OutboundMessage}
    (h : message.encode limits = .ok out) :
    out.bytes = (message.header out.bytes.length).encode ++ out.body := by
  obtain ⟨document, -, -, hbytes, -⟩ := encode_eq_ok h
  have hbody : out.body = message.preamble ++ document := by
    rw [OutboundMessage.body, hbytes, Header.drop_encode_append]
  rw [hbody]
  exact hbytes

/-- The header of a message within its limits is accepted, and counts the message. -/
theorem decode_of_encode {message : Command} {limits : MessageLimits} {out : OutboundMessage}
    (hlimit : limits.messageSize < UInt32.size) (h : message.encode limits = .ok out) :
    Header.decode out.bytes limits.messageSize = .ok (message.header out.bytes.length) ∧
      (message.header out.bytes.length).messageLength.toNat = out.bytes.length := by
  obtain ⟨document, -, -, hbytes, hlength, -⟩ := encode_eq_ok h
  have hcount : (message.header out.bytes.length).messageLength.toNat = out.bytes.length :=
    UInt32.toNat_ofNat_of_lt' (Nat.lt_of_le_of_lt hlength hlimit)
  exact ⟨Header.decode_message hbytes hcount hlength, hcount⟩

/-- The document of a message stands at the position that was noted, and runs to the end. -/
theorem drop_documentPosition {message : Command} {limits : MessageLimits} {out : OutboundMessage}
    (h : message.encode limits = .ok out) :
    message.document.encode? = some (out.bytes.drop out.documentPosition) ∧
      (out.bytes.drop out.documentPosition).length ≤ limits.documentSize := by
  obtain ⟨document, hdocument, hsize, hbytes, -, hposition, -⟩ := encode_eq_ok h
  have hdrop : out.bytes.drop out.documentPosition = document := by
    rw [hbytes, hposition, ← List.append_assoc]
    exact List.drop_left' (by rw [List.length_append, Header.length_encode])
  rw [hdrop]
  exact ⟨hdocument, hsize⟩

/-- The opcode at the front of a message is that of its form. -/
theorem opcode_of_encode {message : Command} {limits : MessageLimits}
    {out : OutboundMessage} (h : message.encode limits = .ok out) :
    (Header.fields out.bytes).opcode = if message.form = .msg then 2013 else 2004 := by
  rw [body_of_encode h, Header.fields_encode_append]
  unfold header opcode
  cases message.form <;> rfl

end Command

namespace OutboundMessage

/-- **What an envelope looks like in bytes**, once it is there: its header with the number of
bytes, what it tells of the message inside, and the packed body. -/
theorem compress_eq_ok {message : OutboundMessage} {compressor : Compressor}
    {limits : MessageLimits} {packing : Packing} {bytes : Bytes}
    (h : message.compress compressor limits packing = .ok bytes) :
    ∃ packed, compressor.pack packing message.body = .ok packed ∧
      bytes.length ≤ limits.messageSize ∧
      bytes = (message.envelopeHeader compressor bytes.length).outer.encode ++
        ((message.envelopeHeader compressor bytes.length).encode ++ packed) := by
  unfold compress at h
  split at h
  · cases h
  · rename_i packed hpack
    dsimp only at h
    split at h
    · cases h
    · rename_i hlength
      cases h
      have hcount : ∀ envelope : EnvelopeHeader,
          (envelope.outer.encode ++ envelope.encode ++ packed).length =
            Header.size + EnvelopeHeader.size + packed.length := by
        intro envelope
        simp only [List.length_append, Header.length_encode, EnvelopeHeader.length_encode]
      refine ⟨packed, hpack, ?_, ?_⟩
      · rw [hcount]
        exact Nat.le_of_not_lt hlength
      · rw [hcount, List.append_assoc]

/-- The header of an envelope within its limits is accepted, and counts the envelope. -/
theorem decode_of_compress {message : OutboundMessage} {compressor : Compressor}
    {limits : MessageLimits} {packing : Packing} {bytes : Bytes}
    (hlimit : limits.messageSize < UInt32.size)
    (h : message.compress compressor limits packing = .ok bytes) :
    Header.decode bytes limits.messageSize =
        .ok (message.envelopeHeader compressor bytes.length).outer ∧
      (message.envelopeHeader compressor bytes.length).outer.messageLength.toNat =
        bytes.length := by
  obtain ⟨packed, -, hlength, hbytes⟩ := compress_eq_ok h
  have hcount : (message.envelopeHeader compressor bytes.length).outer.messageLength.toNat =
      bytes.length := UInt32.toNat_ofNat_of_lt' (Nat.lt_of_le_of_lt hlength hlimit)
  exact ⟨Header.decode_message hbytes hcount hlength, hcount⟩

/-- What an envelope carries: the fields that tell of the message inside, and the packed body. -/
theorem content_of_compress {message : OutboundMessage} {compressor : Compressor}
    {limits : MessageLimits} {packing : Packing} {bytes : Bytes}
    (h : message.compress compressor limits packing = .ok bytes) :
    EnvelopeHeader.decode (bytes.drop Header.size)
        (message.envelopeHeader compressor bytes.length).outer =
        .ok (message.envelopeHeader compressor bytes.length) ∧
      compressor.pack packing message.body =
        .ok ((bytes.drop Header.size).drop EnvelopeHeader.size) := by
  obtain ⟨packed, hpack, -, hbytes⟩ := compress_eq_ok h
  have hrest : bytes.drop Header.size =
      (message.envelopeHeader compressor bytes.length).encode ++ packed := by
    conv => lhs; rw [hbytes, Header.drop_encode_append]
  rw [hrest, EnvelopeHeader.decode_encode_append, EnvelopeHeader.drop_encode_append]
  exact ⟨rfl, hpack⟩

/-- The opcode at the front of an envelope is that of envelopes. -/
theorem opcode_of_compress {message : OutboundMessage} {compressor : Compressor}
    {limits : MessageLimits} {packing : Packing} {bytes : Bytes}
    (h : message.compress compressor limits packing = .ok bytes) :
    (Header.fields bytes).opcode = 2012 := by
  obtain ⟨packed, -, -, hbytes⟩ := compress_eq_ok h
  rw [hbytes, Header.fields_encode_append]
  rfl

end OutboundMessage

/-! ## The round trip -/

/-- **What is written for a command is read back.** The header is accepted under the limit that the
command was written under. It counts the bytes, carries the command's id and the opcode of its
form, and answers nothing. From the noted position to the end stands the document of the command,
which names the database exactly in the present form of a command that does not do so itself.

Any envelope that the message is then wrapped in is accepted under the same limit and carries the
same id; it tells the opcode and the size of the message inside and the number of the compressor.
From what it carries exactly the body of the message is unpacked behind whatever a buffer holds,
with any libraries of which the one that unpacks undoes what the one that packs did. Unpacking as a
connection does it is unpacking with the libraries at hand. -/
theorem outbound_round_trip {message : Command} {limits : MessageLimits} {out : OutboundMessage}
    (hlimit : limits.messageSize < UInt32.size) (hencode : message.encode limits = .ok out) :
    ∃ header, Header.decode out.bytes limits.messageSize = .ok header ∧
      header.messageLength.toNat = out.bytes.length ∧
      header.requestId = message.requestId ∧ header.responseTo = 0 ∧
      header.opcode = (if message.form = .msg then 2013 else 2004) ∧
      Document.encode?
          (if message.form = .msg ∧ message.command.has "$db" = false then
            message.command ++ [("$db", .string message.space.database)]
          else message.command) = some (out.bytes.drop out.documentPosition) ∧
      (out.bytes.drop out.documentPosition).length ≤ limits.documentSize ∧
      ∀ (compressor : Compressor) (packing : Packing) (unpacking : Unpacking) (bytes : Bytes),
        unpacking.Undoes packing compressor →
        out.compress compressor limits packing = .ok bytes →
        ∃ outer envelope, Header.decode bytes limits.messageSize = .ok outer ∧
          outer.messageLength.toNat = bytes.length ∧ outer.requestId = message.requestId ∧
          outer.responseTo = 0 ∧ outer.opcode = 2012 ∧
          EnvelopeHeader.decode (bytes.drop Header.size) outer = .ok envelope ∧
          envelope.innerOpcode = header.opcode ∧
          envelope.uncompressedSize.toNat = (out.bytes.drop Header.size).length ∧
          envelope.compressorId = compressor.id ∧ envelope.inner = header ∧
          ∀ buffer : Bytes,
            compressor.unpackWith unpacking
                ((bytes.drop Header.size).drop EnvelopeHeader.size)
                envelope.uncompressedSize.toNat buffer =
              ⟨buffer ++ out.bytes.drop Header.size, .ok ()⟩ ∧
            compressor.uncompress ((bytes.drop Header.size).drop EnvelopeHeader.size)
                envelope.uncompressedSize.toNat buffer =
              compressor.unpackWith .own ((bytes.drop Header.size).drop EnvelopeHeader.size)
                envelope.uncompressedSize.toNat buffer := by
  obtain ⟨hheader, hcount⟩ := Command.decode_of_encode hlimit hencode
  obtain ⟨hdocument, hsize⟩ := Command.drop_documentPosition hencode
  obtain ⟨-, -, -, -, hlength, -, hid, hopcode⟩ := Command.encode_eq_ok hencode
  have hlengths : out.bytes.length = Header.size + out.body.length := by
    conv => lhs; rw [Command.body_of_encode hencode, List.length_append, Header.length_encode]
  refine ⟨_, hheader, hcount, rfl, rfl, ?_, ?_, hsize, ?_⟩
  · unfold Command.header Command.opcode
    cases message.form <;> rfl
  · rw [Command.document_eq] at hdocument
    exact hdocument
  · intro compressor packing unpacking bytes hundoes hcompress
    obtain ⟨houter, houterCount⟩ := OutboundMessage.decode_of_compress hlimit hcompress
    obtain ⟨henvelope, hpack⟩ := OutboundMessage.content_of_compress hcompress
    have hbodySize : (out.envelopeHeader compressor bytes.length).uncompressedSize.toNat =
        out.body.length := UInt32.toNat_ofNat_of_lt' (by omega)
    refine ⟨_, _, houter, houterCount, hid, rfl, rfl, henvelope, hopcode, hbodySize, rfl, ?_,
      fun buffer => ⟨?_, Compressor.uncompress_eq_unpackWith _ _ _ _⟩⟩
    · rw [EnvelopeHeader.inner_eq hbodySize (by omega), ← hlengths]
      simp only [OutboundMessage.envelopeHeader, Command.header, hid, hopcode]
    · rw [hbodySize]
      exact Compressor.unpackWith_of_undoes hundoes (by omega) hpack buffer

/-- A ping of a database as it is written, and again in an envelope of zlib data. -/
theorem outbound_round_trip_ping :
    ∃ out bytes, (Command.ofCommand 7 "app" [("ping", .int32 1)]).encode .initial = .ok out ∧
      out.compress ⟨.zlib, 6⟩ .initial .plain = .ok bytes ∧
      (∃ header, Header.decode out.bytes 48000000 = .ok header ∧ header.requestId = 7 ∧
        header.opcode = 2013) ∧
      Document.encode? [("ping", .int32 1), ("$db", .string "app")] =
        some (out.bytes.drop out.documentPosition) ∧
      ∃ outer envelope, Header.decode bytes 48000000 = .ok outer ∧ outer.opcode = 2012 ∧
        EnvelopeHeader.decode (bytes.drop Header.size) outer = .ok envelope ∧
        Compressor.uncompress ⟨.zlib, 6⟩ ((bytes.drop Header.size).drop EnvelopeHeader.size)
            envelope.uncompressedSize.toNat [1, 2] =
          ⟨[1, 2] ++ out.bytes.drop Header.size, .ok ()⟩ := by
  refine ⟨_, _, rfl, rfl, ?_⟩
  obtain ⟨header, hheader, -, hid, -, hopcode, hdocument, -, henveloped⟩ :=
    @outbound_round_trip (.ofCommand 7 "app" [("ping", .int32 1)]) .initial _ (by decide) rfl
  obtain ⟨outer, envelope, houter, -, -, -, hcompressed, henvelope, -, -, -, -, hunpacked⟩ :=
    henveloped ⟨.zlib, 6⟩ .plain .own _ (Unpacking.own_undoes_plain _) rfl
  obtain ⟨hwith, hown⟩ := hunpacked [1, 2]
  exact ⟨⟨header, hheader, hid, hopcode⟩, hdocument, outer, envelope, houter, hcompressed,
    henvelope, hown.trans hwith⟩

end CommandLink
