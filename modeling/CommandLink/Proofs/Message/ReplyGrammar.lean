import CommandLink.Message.Reply
import CommandLink.Proofs.Bytes

/-!
# The grammar of replies

A reply has, in the place that its opcode gives it, a length, and as many bytes as that tells,
within the room there is (`Reply.Offers`). Parsing finds a document just if there are such bytes and
they are a document; it says that they cannot be decoded just if there are such bytes that are none,
and that the reply is out of frame just if there are no such bytes (`grammar_accepted`).
-/

namespace CommandLink

/-- The bytes are a document: they begin with their number and end with a zero byte. -/
def Bytes.IsDocument (bytes : Bytes) : Prop :=
  bytes.toInt32.toInt = bytes.length ∧ bytes.getLast? = some 0

/-- A document is the bytes that write it. -/
@[ext] theorem RawDocument.ext {document other : RawDocument}
    (h : document.bytes = other.bytes) : document = other := by
  cases document
  cases other
  cases h
  rfl

namespace Reply

variable {header : InboundHeader} {body slice : Bytes} {requestId : UInt32}
  {start stop length : Nat}

/-- What an opcode has in front of a document: where the document starts, and where the room for it
ends. Of the present form these are flags, the lowest of which takes four bytes at the end for a
checksum, and the kind of a section; of the legacy form fixed fields, the last of which counts the
documents. -/
inductive Leads (body : Bytes) : (opcode : Int32) → (start stop : Nat) → Prop where
  | msg (present : 5 ≤ body.length) (kind : body[4]? = some 0) :
    Leads body 2013 5 (if body.toUInt32 &&& 1 ≠ 0 then body.length - 4 else body.length)
  | legacy (present : 20 ≤ body.length) (count : 1 ≤ (Bytes.toInt32 (body.drop 16)).toInt) :
    Leads body 1 20 body.length

/-- The number at the start is a length that a document can have and that there is room for. -/
structure Declares (body : Bytes) (start stop length : Nat) : Prop where
  number : (Bytes.toInt32 (body.drop start)).toInt = length
  least : 5 ≤ length
  room : start + length ≤ stop

/-- The bytes that stand in the place of the document in a reply to a request. -/
def Offers (header : InboundHeader) (body : Bytes) (requestId : UInt32) (slice : Bytes) : Prop :=
  header.responseTo = requestId ∧ ∃ start stop length, Leads body header.opcode start stop ∧
    Declares body start stop length ∧ slice = (body.drop start).take length

/-! ## One reading at most -/

theorem Leads.unique {opcode : Int32} {otherStart otherStop : Nat}
    (h : Leads body opcode start stop) (other : Leads body opcode otherStart otherStop) :
    start = otherStart ∧ stop = otherStop := by
  cases h <;> cases other <;> exact ⟨rfl, rfl⟩

theorem Leads.stop_le {opcode : Int32} (h : Leads body opcode start stop) :
    stop ≤ body.length := by
  cases h with
  | msg => split <;> omega
  | legacy => exact Nat.le_refl _

theorem Declares.unique {other : Nat} (h : Declares body start stop length)
    (hother : Declares body start stop other) : length = other := by
  have hlengths := h.number.symm.trans hother.number
  omega

theorem Offers.unique {other : Bytes} (h : Offers header body requestId slice)
    (hother : Offers header body requestId other) : slice = other := by
  obtain ⟨-, start, stop, length, hleads, hdeclares, rfl⟩ := h
  obtain ⟨-, _, _, _, hleads', hdeclares', rfl⟩ := hother
  obtain ⟨rfl, rfl⟩ := hleads.unique hleads'
  rw [hdeclares.unique hdeclares']

/-! ## A document in its room -/

/-- Bytes of the length that a document declares are a document just if they are framed as one. -/
theorem ofBytes?_of_declares (hstop : stop ≤ body.length) (h : Declares body start stop length) :
    (∃ document, RawDocument.ofBytes? ((body.drop start).take length) = some document ∧
      document.bytes = (body.drop start).take length ∧
      Bytes.IsDocument ((body.drop start).take length)) ∨
    (RawDocument.ofBytes? ((body.drop start).take length) = none ∧
      ¬ Bytes.IsDocument ((body.drop start).take length)) := by
  have hroom := h.room
  have hholds : Bytes.holds ((body.drop start).take length) 5 = true := by
    rw [Bytes.holds_iff, List.length_take, List.length_drop]
    exact Nat.le_min.mpr ⟨h.least, by have := h.least; omega⟩
  unfold RawDocument.ofBytes? Bytes.IsDocument
  split
  · rename_i hframed
    exact .inl ⟨_, rfl, rfl, hframed.2⟩
  · rename_i hunframed
    exact .inr ⟨rfl, fun hdocument => hunframed ⟨hholds, hdocument⟩⟩

/-- **A document that is declared** is looked at. -/
theorem documentAt_of_declares (hstop : stop ≤ body.length)
    (h : Declares body start stop length) :
    documentAt (body.take stop) start =
      (RawDocument.ofBytes? ((body.drop start).take length)).elim
        (.error (.decode .malformedReply)) .ok := by
  have hleast := h.least
  have hroom := h.room
  have hslice : ((body.take stop).drop start).take length = (body.drop start).take length := by
    rw [List.drop_take, List.take_take, Nat.min_eq_left (by omega)]
  unfold documentAt
  dsimp only
  rw [Bytes.toInt32_drop_take (by omega), h.number, List.length_take, Nat.min_eq_left hstop,
    if_neg (by omega), if_neg (by omega), Int.toNat_natCast, hslice]
  cases RawDocument.ofBytes? ((body.drop start).take length) <;> rfl

/-- **Where none is declared**, none is looked at. -/
theorem documentAt_of_not_declares (hstop : stop ≤ body.length)
    (h : ∀ length, ¬ Declares body start stop length) :
    ∃ fault, documentAt (body.take stop) start = .error (.protocolFraming fault) := by
  unfold documentAt
  dsimp only
  rw [List.length_take, Nat.min_eq_left hstop]
  split
  · exact ⟨_, rfl⟩
  · rename_i hfive
    rw [Bytes.toInt32_drop_take (by omega)]
    split
    · exact ⟨_, rfl⟩
    · rename_i hfits
      rw [not_or, Int.not_lt, Int.not_lt] at hfits
      exact absurd ⟨(Int.toNat_of_nonneg (by omega)).symm, by omega, by omega⟩
        (h (Bytes.toInt32 (body.drop start)).toInt.toNat)

/-! ## The fields in front of it -/

/-- A reply of the present form whose fields are in order has its document looked for behind
them. -/
theorem msgDocument_of_leads (h : Leads body 2013 start stop) :
    msgDocument body = documentAt (body.take stop) start := by
  cases h with
  | msg hpresent hkind =>
    have hzero : body.getD 4 0 = 0 := by rw [List.getD_eq_getElem?_getD, hkind, Option.getD_some]
    have hend : sectionsEnd body =
        if body.toUInt32 &&& 1 ≠ 0 then body.length - 4 else body.length := by
      simp only [sectionsEnd, announcesChecksum, decide_eq_true_eq]
    rw [msgDocument, if_neg (Nat.not_lt.mpr hpresent), if_neg (not_not_intro hzero), hend]

/-- So has one of the legacy form. -/
theorem legacyDocument_of_leads (h : Leads body 1 start stop) :
    legacyDocument body = documentAt (body.take stop) start := by
  cases h with
  | legacy hpresent hcount =>
    rw [legacyDocument, legacyPreamble, if_neg (Nat.not_lt.mpr hpresent),
      if_neg (Int.not_lt.mpr hcount), List.take_length]

/-- Any other of the present form is out of frame. -/
theorem msgDocument_of_not_leads (h : ∀ start stop, ¬ Leads body 2013 start stop) :
    ∃ fault, msgDocument body = .error (.protocolFraming fault) := by
  unfold msgDocument
  split
  · exact ⟨_, rfl⟩
  · rename_i hpresent
    split
    · exact ⟨_, rfl⟩
    · rename_i hkind
      have hlong : 4 < body.length := Nat.lt_of_lt_of_le (by decide) (Nat.not_lt.mp hpresent)
      have hfour : body[4]? = some 0 := by
        rw [List.getD_eq_getElem?_getD, List.getElem?_eq_getElem hlong, Option.getD_some,
          Decidable.not_not] at hkind
        rw [List.getElem?_eq_getElem hlong, hkind]
      exact absurd (.msg (Nat.not_lt.mp hpresent) hfour) (h _ _)

/-- And so is any other of the legacy form. -/
theorem legacyDocument_of_not_leads (h : ∀ start stop, ¬ Leads body 1 start stop) :
    ∃ fault, legacyDocument body = .error (.protocolFraming fault) := by
  unfold legacyDocument
  split
  · exact ⟨_, rfl⟩
  · rename_i hpresent
    split
    · exact ⟨_, rfl⟩
    · rename_i hcount
      exact absurd (.legacy (Nat.not_lt.mp hpresent) (Int.not_lt.mp hcount)) (h _ _)

/-- A reply to the request whose fields are in order has its document looked for behind them. -/
theorem parse_of_leads (hanswers : header.responseTo = requestId)
    (h : Leads body header.opcode start stop) :
    parse header body requestId =
      (documentAt (body.take stop) start).map fun document => ⟨header, document⟩ := by
  unfold parse
  rw [if_neg (not_not_intro hanswers)]
  generalize header.opcode = opcode at h
  dsimp only
  cases h with
  | msg hpresent hkind =>
    rw [if_pos (show (2013 : Int32) = Opcode.msg.value from rfl),
      msgDocument_of_leads (.msg hpresent hkind)]
  | legacy hpresent hcount =>
    rw [if_neg (show ¬ (1 : Int32) = Opcode.msg.value by decide),
      if_pos (show (1 : Int32) = Opcode.reply.value from rfl),
      legacyDocument_of_leads (.legacy hpresent hcount)]

/-- Any other reply is out of frame. -/
theorem parse_of_not_leads
    (h : header.responseTo = requestId → ∀ start stop, ¬ Leads body header.opcode start stop) :
    ∃ fault, parse header body requestId = .error (.protocolFraming fault) := by
  unfold parse
  split
  · exact ⟨_, rfl⟩
  · rename_i hanswers
    have hleads := h (Decidable.not_not.mp hanswers)
    dsimp only
    split
    · rename_i hmsg
      rw [show header.opcode = 2013 from hmsg] at hleads
      obtain ⟨fault, hfault⟩ := msgDocument_of_not_leads hleads
      rw [hfault]
      exact ⟨fault, rfl⟩
    · split
      · rename_i hlegacy
        rw [show header.opcode = 1 from hlegacy] at hleads
        obtain ⟨fault, hfault⟩ := legacyDocument_of_not_leads hleads
        rw [hfault]
        exact ⟨fault, rfl⟩
      · exact ⟨_, rfl⟩

/-! ## What parsing says -/

/-- **The three outcomes**: the document that the reply offers, bytes in its place that are none, or
no such bytes. -/
theorem parse_outcomes (header : InboundHeader) (body : Bytes) (requestId : UInt32) :
    (∃ document, parse header body requestId = .ok ⟨header, document⟩ ∧
      Offers header body requestId document.bytes ∧ document.bytes.IsDocument) ∨
    (parse header body requestId = .error (.decode .malformedReply) ∧
      ∃ slice, Offers header body requestId slice ∧ ¬ slice.IsDocument) ∨
    ((∃ fault, parse header body requestId = .error (.protocolFraming fault)) ∧
      ∀ slice, ¬ Offers header body requestId slice) := by
  by_cases hleads : header.responseTo = requestId ∧
      ∃ start stop, Leads body header.opcode start stop
  · obtain ⟨hanswers, start, stop, hleads⟩ := hleads
    have hstop := hleads.stop_le
    rw [parse_of_leads hanswers hleads]
    by_cases hdeclares : ∃ length, Declares body start stop length
    · obtain ⟨length, hdeclares⟩ := hdeclares
      have hoffers : Offers header body requestId ((body.drop start).take length) :=
        ⟨hanswers, start, stop, length, hleads, hdeclares, rfl⟩
      rw [documentAt_of_declares hstop hdeclares]
      rcases ofBytes?_of_declares hstop hdeclares with
        ⟨document, hbytes, hdocument, hframed⟩ | ⟨hbytes, hunframed⟩
      · rw [hbytes]
        rw [← hdocument] at hoffers hframed
        exact .inl ⟨document, rfl, hoffers, hframed⟩
      · rw [hbytes]
        exact .inr (.inl ⟨rfl, _, hoffers, hunframed⟩)
    · obtain ⟨fault, hfault⟩ := documentAt_of_not_declares hstop (not_exists.mp hdeclares)
      rw [hfault]
      refine .inr (.inr ⟨⟨fault, rfl⟩, ?_⟩)
      rintro slice ⟨-, _, _, length, hother, hlength, -⟩
      obtain ⟨rfl, rfl⟩ := hleads.unique hother
      exact hdeclares ⟨length, hlength⟩
  · refine .inr (.inr ⟨parse_of_not_leads fun hanswers start stop h =>
      hleads ⟨hanswers, start, stop, h⟩, ?_⟩)
    rintro slice ⟨hanswers, start, stop, -, hother, -⟩
    exact hleads ⟨hanswers, start, stop, hother⟩

end Reply

open Reply in
/-- **Parsing accepts the grammar of replies**, and nothing else, for any header, body and request.
It succeeds just if the reply answers the request, the fields in front of its document are as its
opcode has them, and the bytes that the document declares have room and are a document; these bytes
are then its document, under the header. If all is so but that these bytes are no document, the
error is one of decoding, and in any other case it is one of framing. -/
theorem grammar_accepted (header : InboundHeader) (body : Bytes) (requestId : UInt32) :
    ((∃ reply, parse header body requestId = .ok reply) ↔
      ∃ slice, Offers header body requestId slice ∧ slice.IsDocument) ∧
    (∀ reply, parse header body requestId = .ok reply ↔
      reply.header = header ∧ Offers header body requestId reply.document.bytes) ∧
    ((∃ fault, parse header body requestId = .error (.decode fault)) ↔
      ∃ slice, Offers header body requestId slice ∧ ¬ slice.IsDocument) ∧
    ((∃ fault, parse header body requestId = .error (.protocolFraming fault)) ↔
      ¬ ∃ slice, Offers header body requestId slice) := by
  rcases parse_outcomes header body requestId with
    ⟨document, hparse, hoffers, hdocument⟩ | ⟨hparse, slice, hoffers, hnot⟩ |
      ⟨⟨fault, hparse⟩, hnone⟩
  · rw [hparse]
    refine ⟨⟨fun _ => ⟨_, hoffers, hdocument⟩, fun _ => ⟨_, rfl⟩⟩, fun reply => ⟨?_, ?_⟩,
      ⟨nofun, ?_⟩, ⟨nofun, fun hnone => absurd ⟨_, hoffers⟩ hnone⟩⟩
    · rintro ⟨⟩
      exact ⟨rfl, hoffers⟩
    · rintro ⟨rfl, hother⟩
      rw [RawDocument.ext (hoffers.unique hother)]
    · rintro ⟨slice, hother, hnot⟩
      exact absurd (hoffers.unique hother ▸ hdocument) hnot
  · rw [hparse]
    refine ⟨⟨nofun, ?_⟩, fun reply => ⟨nofun, ?_⟩,
      ⟨fun _ => ⟨slice, hoffers, hnot⟩, fun _ => ⟨_, rfl⟩⟩,
      ⟨nofun, fun hnone => absurd ⟨slice, hoffers⟩ hnone⟩⟩
    · rintro ⟨other, hother, hdocument⟩
      exact absurd (hother.unique hoffers ▸ hdocument) hnot
    · rintro ⟨-, hother⟩
      exact absurd (hother.unique hoffers ▸ reply.document.framed.2) hnot
  · rw [hparse]
    refine ⟨⟨nofun, ?_⟩, fun reply => ⟨nofun, ?_⟩, ⟨nofun, ?_⟩,
      ⟨fun _ => not_exists.mpr hnone, fun _ => ⟨fault, rfl⟩⟩⟩
    · rintro ⟨slice, hoffers, -⟩
      exact absurd hoffers (hnone slice)
    · rintro ⟨-, hoffers⟩
      exact absurd hoffers (hnone _)
    · rintro ⟨slice, hoffers, -⟩
      exact absurd hoffers (hnone slice)

end CommandLink
