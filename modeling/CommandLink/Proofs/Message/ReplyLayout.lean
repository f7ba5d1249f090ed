import CommandLink.Proofs.Connection.LegacyReply

/-!
# Layouts of replies

A document can be laid out as a reply in two ways, each with room for more than the document: behind
flags that may announce a checksum, or behind the fixed fields of the legacy form. Whatever stands
around it, the document that is found is the same (`ReplyLayout.parse_body`).
-/

namespace CommandLink

/-- What stands around the document of a reply, in either form. -/
inductive ReplyLayout where
  | msg (flags : UInt32) (more checksum : Bytes)
  | legacy (preamble more : Bytes)

namespace ReplyLayout

/-- The opcode of the form. -/
def opcode : ReplyLayout → Int32
  | msg _ _ _ => 2013
  | legacy _ _ => 1

/-- The body of the reply around a document. -/
def body (document : RawDocument) : ReplyLayout → Bytes
  | msg flags more checksum =>
    Bytes.ofUInt32 flags ++ [0] ++ (document.bytes ++ (more ++ checksum))
  | legacy preamble more => preamble ++ (document.bytes ++ more)

/-- The layout is as its form has it: there are four bytes of a checksum just if the first flag
announces them, and the fixed fields are twenty bytes, of which the last four count at least one
document. -/
def IsValid : ReplyLayout → Prop
  | msg flags _ checksum => checksum.length = if flags &&& 1 ≠ 0 then 4 else 0
  | legacy preamble _ =>
    preamble.length = 20 ∧ 1 ≤ (Bytes.toInt32 (preamble.drop 16)).toInt

/-- The document behind flags is found, whatever follows and whether there is a checksum. -/
theorem msgDocument_body {flags : UInt32} {more checksum : Bytes}
    (hvalid : IsValid (.msg flags more checksum)) (document : RawDocument) :
    Reply.msgDocument (body document (.msg flags more checksum)) = .ok document := by
  let front := Bytes.ofUInt32 flags ++ [0]
  let whole := body document (.msg flags more checksum)
  have hfront : front.length = 5 := rfl
  have hlong : ¬ whole.length < 5 := by
    show ¬ (front ++ (document.bytes ++ (more ++ checksum))).length < 5
    rw [List.length_append, hfront]
    omega
  have hkind : whole.getD 4 0 = 0 := rfl
  have hflags : whole.toUInt32 = flags := by
    show (Bytes.ofUInt32 flags ++ [0] ++ _).toUInt32 = flags
    rw [List.append_assoc, Bytes.toUInt32_ofUInt32_append]
  -- the checksum, if there is one, is what is cut off
  have hend : Reply.sectionsEnd whole = whole.length - checksum.length := by
    unfold Reply.sectionsEnd Reply.announcesChecksum
    rw [hflags, show checksum.length = _ from hvalid]
    by_cases hannounced : flags &&& 1 ≠ 0
    · rw [if_pos hannounced, if_pos (decide_eq_true hannounced)]
    · rw [if_neg hannounced, if_neg (by rwa [decide_eq_true_iff]), Nat.sub_zero]
  have hsections : whole.take (Reply.sectionsEnd whole) = front ++ (document.bytes ++ more) := by
    have hsplit : whole = front ++ (document.bytes ++ more) ++ checksum := by
      simp only [whole, body, front, List.append_assoc]
    rw [hend, hsplit, List.length_append, Nat.add_sub_cancel, List.take_left]
  unfold Reply.msgDocument
  rw [if_neg hlong, if_neg (not_not_intro hkind), hsections, ← hfront]
  exact Reply.documentAt_append front document more

/-- **The document of a reply** is found, however it is laid out, under any header of its opcode. -/
theorem parse_body {layout : ReplyLayout} (hvalid : layout.IsValid) (document : RawDocument)
    {inbound : InboundHeader} (hopcode : inbound.opcode = layout.opcode) :
    Reply.parse inbound (layout.body document) inbound.responseTo = .ok ⟨inbound, document⟩ := by
  unfold Reply.parse
  rw [if_neg (not_not_intro rfl), hopcode]
  cases layout with
  | msg flags more checksum =>
    have hmsg : opcode (.msg flags more checksum) = Opcode.msg.value := rfl
    rw [if_pos hmsg, msgDocument_body hvalid document]
    rfl
  | legacy preamble more =>
    have hother : opcode (.legacy preamble more) ≠ Opcode.msg.value :=
      show (1 : Int32) ≠ 2013 by decide
    have hlegacy : opcode (.legacy preamble more) = Opcode.reply.value := rfl
    obtain ⟨hlength, hcount⟩ := hvalid
    rw [if_neg hother, if_pos hlegacy, body, Reply.legacyDocument_append hlength hcount]
    rfl

end ReplyLayout

end CommandLink
