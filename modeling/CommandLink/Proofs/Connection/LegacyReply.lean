import CommandLink.Message.Reply
import CommandLink.Proofs.Connection.Exchange

/-!
# Replies in the legacy form

A reply in the legacy form is a header, four fixed fields and at least one document. Such a reply is
read as one message, and its first document is found in it byte for byte (`LegacyReply.parse_body`),
whatever follows.
-/

namespace CommandLink

namespace RawDocument

/-- A document takes five bytes at least, and its length field counts them all. -/
theorem five_le_length (document : RawDocument) : 5 ≤ document.bytes.length :=
  Bytes.holds_iff.mp document.framed.1

/-- The length field of a document is read in front of whatever follows. -/
theorem toInt_append (document : RawDocument) (rest : Bytes) :
    (Bytes.toInt32 (document.bytes ++ rest)).toInt = document.bytes.length := by
  rw [Bytes.toInt32_append (Nat.le_trans (by decide) document.five_le_length)]
  exact document.framed.2.1

end RawDocument

/-- A document is found at its offset, whatever follows. -/
theorem Reply.documentAt_append (front : Bytes) (document : RawDocument) (more : Bytes) :
    documentAt (front ++ (document.bytes ++ more)) front.length = .ok document := by
  have hleast := document.five_le_length
  have hremaining : (front ++ (document.bytes ++ more)).length - front.length =
      document.bytes.length + more.length := by
    rw [List.length_append, Nat.add_sub_cancel_left, List.length_append]
  have hrest : (front ++ (document.bytes ++ more)).drop front.length = document.bytes ++ more :=
    List.drop_left
  have htake : (document.bytes ++ more).take document.bytes.length = document.bytes :=
    List.take_left
  unfold documentAt
  dsimp only
  rw [hremaining, hrest, document.toInt_append, if_neg (by omega), if_neg (by omega),
    Int.toNat_natCast, htake, document.ofBytes?_bytes]

/-- The first document of a legacy reply is found behind its fixed fields, whatever follows, if
they tell that there is one. -/
theorem Reply.legacyDocument_append {preamble : Bytes} (hlength : preamble.length = legacyPreamble)
    (hcount : 1 ≤ (Bytes.toInt32 (preamble.drop 16)).toInt) (document : RawDocument)
    (more : Bytes) : legacyDocument (preamble ++ (document.bytes ++ more)) = .ok document := by
  have hroom : ¬ (preamble ++ (document.bytes ++ more)).length < legacyPreamble := by
    rw [List.length_append, hlength]
    exact Nat.not_lt.mpr (Nat.le_add_right _ _)
  have hheld : 16 ≤ preamble.length := by
    rw [hlength]
    decide
  have hfield : 4 ≤ (preamble.drop 16).length := by
    rw [List.length_drop, hlength]
    decide
  have hdocument : documentAt (preamble ++ (document.bytes ++ more)) legacyPreamble =
      .ok document := by
    rw [← hlength]
    exact documentAt_append preamble document more
  unfold legacyDocument
  rw [if_neg hroom, List.drop_append_of_le_length hheld, Bytes.toInt32_append hfield,
    if_neg (by omega), hdocument]

/-- A reply in the legacy form: the ids in its header, its fixed fields, the first of its documents
and what follows that. -/
structure LegacyReply where
  requestId : UInt32
  responseTo : UInt32
  flags : UInt32
  cursor : UInt64
  startingFrom : Int32
  count : Int32
  document : RawDocument
  more : Bytes

namespace LegacyReply

variable {σ : Type} {reply : LegacyReply}

/-- What stands between the header and the documents. -/
def preamble (reply : LegacyReply) : Bytes :=
  Bytes.ofUInt32 reply.flags ++ Bytes.ofUInt64 reply.cursor ++ Bytes.ofInt32 reply.startingFrom ++
    Bytes.ofInt32 reply.count

/-- What follows the header. -/
def body (reply : LegacyReply) : Bytes :=
  reply.preamble ++ (reply.document.bytes ++ reply.more)

/-- The header, which counts itself and what follows it. -/
def header (reply : LegacyReply) : Header :=
  ⟨UInt32.ofNat (Header.size + reply.body.length), reply.requestId, reply.responseTo, 1⟩

/-- The bytes of a reply. -/
def bytes (reply : LegacyReply) : Bytes := reply.header.encode ++ reply.body

/-- A reply that answers a request within a limit, and tells that there is a document in it. -/
structure Answers (reply : LegacyReply) (requestId : UInt32) (limit : Nat) : Prop where
  responseTo : reply.responseTo = requestId
  count : 1 ≤ reply.count.toInt
  within : reply.bytes.length ≤ limit

theorem length_preamble (reply : LegacyReply) : reply.preamble.length = Reply.legacyPreamble := by
  simp only [preamble, List.length_append, Bytes.length_ofUInt32, Bytes.length_ofUInt64,
    Bytes.length_ofInt32, Reply.legacyPreamble]

/-- A reply is one whole message. -/
theorem isMessage_bytes {limit : Nat} (hwithin : reply.bytes.length ≤ limit)
    (hlimit : limit < UInt32.size) : Connection.IsMessage limit reply.bytes := by
  have hlength : reply.bytes.length = Header.size + reply.body.length := by
    rw [bytes, List.length_append, Header.length_encode]
  rw [hlength] at hwithin
  exact Connection.isMessage_encode_append
    (UInt32.toNat_ofNat_of_lt' (Nat.lt_of_le_of_lt hwithin hlimit)) hwithin

/-- It is read as it is: it is no envelope. -/
theorem reading_bytes (connection : Connection σ) (limit : Nat) (reply : LegacyReply) :
    connection.reading limit reply.bytes = .ok (reply.header.toInbound, reply.body) := by
  have hplain : reply.header.isEnvelope = false := rfl
  rw [bytes, connection.reading_encode_append, Connection.content, hplain]
  rfl

/-- **The first document of a reply** is found by whoever looks for the answer to its request. -/
theorem parse_body (hcount : 1 ≤ reply.count.toInt) :
    Reply.parse reply.header.toInbound reply.body reply.responseTo =
      .ok ⟨reply.header.toInbound, reply.document⟩ := by
  have hdrop : reply.preamble.drop 16 = Bytes.ofInt32 reply.count := by
    rw [preamble]
    exact List.drop_left' (by
      simp only [List.length_append, Bytes.length_ofUInt32, Bytes.length_ofUInt64,
        Bytes.length_ofInt32])
  have hread : Bytes.toInt32 (Bytes.ofInt32 reply.count) = reply.count := by
    have happend := Bytes.toInt32_ofInt32_append reply.count []
    rwa [List.append_nil] at happend
  have hlegacy : Reply.legacyDocument reply.body = .ok reply.document :=
    Reply.legacyDocument_append reply.length_preamble (by rw [hdrop, hread]; exact hcount)
      reply.document reply.more
  have hsame : reply.header.toInbound.responseTo = reply.responseTo := rfl
  have hopcode : reply.header.toInbound.opcode = Opcode.reply.value := rfl
  unfold Reply.parse
  rw [if_neg (not_not_intro hsame), hopcode, if_neg (by decide), if_pos rfl, hlegacy]
  rfl

end LegacyReply

end CommandLink
