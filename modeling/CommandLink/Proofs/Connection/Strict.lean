import CommandLink.Connection.Strict
import CommandLink.Proofs.Connection.Exchange

/-!
# Nothing runs out of range

Receiving by strict operations is receiving, in any state and under any limit
(`receiveStrictlyWithin_eq`), and finding the document of a reply strictly is finding it, in any
body (`Reply.parseStrictly_eq`): what is checked before an operation keeps it in range.
-/

namespace CommandLink

namespace Strict

/-! ## Operations in range -/

theorem minus_of_le {a b : Nat} (h : b ≤ a) : minus a b = .ok (a - b) := if_pos h

theorem plus_of_lt {a b : Nat} (h : a + b < UInt32.size) : plus a b = .ok (a + b) := if_pos h

theorem byte_of_lt {bytes : Bytes} {index : Nat} (h : index < bytes.length) :
    byte bytes index = .ok bytes[index] := by
  simp only [byte, List.getElem?_eq_getElem h]

theorem slice_of_le {bytes : Bytes} {start stop : Nat} (hstart : start ≤ stop)
    (hstop : stop ≤ bytes.length) :
    slice bytes start stop = .ok ((bytes.drop start).take (stop - start)) := if_pos ⟨hstart, hstop⟩

/-- A slice up to the end is all that follows. -/
theorem slice_to_end {bytes : Bytes} {start : Nat} (h : start ≤ bytes.length) :
    slice bytes start bytes.length = .ok (bytes.drop start) := by
  rw [slice_of_le h (Nat.le_refl _), ← List.length_drop, List.take_length]

/-- A slice from the start is what stands in front. -/
theorem slice_from_start {bytes : Bytes} {stop : Nat} (h : stop ≤ bytes.length) :
    slice bytes 0 stop = .ok (bytes.take stop) :=
  slice_of_le (Nat.zero_le _) h

/-- A field that is all there is read as the field at the front of what follows. -/
theorem word_of_le {bytes : Bytes} {offset : Nat} (hheld : offset + 4 ≤ bytes.length)
    (hfits : offset + 3 < UInt32.size) :
    word bytes offset = .ok (Bytes.toUInt32 (bytes.drop offset)) := by
  have hfield : (bytes.drop offset).take 4 =
      [bytes[offset], bytes[offset + 1], bytes[offset + 2], bytes[offset + 3]] := by
    rw [List.drop_eq_getElem_cons (by omega), List.drop_eq_getElem_cons (by omega),
      List.drop_eq_getElem_cons (by omega), List.drop_eq_getElem_cons (by omega)]
    rfl
  have hword : Bytes.toUInt32 (bytes.drop offset) =
      Bytes.toUInt32 [bytes[offset], bytes[offset + 1], bytes[offset + 2], bytes[offset + 3]] := by
    rw [Bytes.toUInt32, hfield]
    rfl
  unfold word
  rw [byte_of_lt (by omega), plus_of_lt (by omega), plus_of_lt (by omega), plus_of_lt hfits]
  simp only [bind, Except.bind]
  rw [byte_of_lt (by omega), byte_of_lt (by omega), byte_of_lt (by omega), hword]

/-- What stands in front holds the fields that lie in it. -/
theorem word_take {bytes : Bytes} {offset count : Nat} (hfront : offset + 4 ≤ count)
    (hheld : count ≤ bytes.length) (hfits : count < UInt32.size) :
    word (bytes.take count) offset = .ok (Bytes.toUInt32 (bytes.drop offset)) := by
  have hlength : (bytes.take count).length = count := List.length_take_of_le hheld
  rw [word_of_le (by omega) (by omega), Bytes.toUInt32_drop_take hfront]

end Strict

open Strict

/-! ## Headers and replies -/

theorem Header.decodeStrictly_eq (data : Bytes) (limit : Nat) :
    Header.decodeStrictly data limit = plain (Header.decode data limit) := by
  unfold decodeStrictly decode
  by_cases hshort : ¬ data.holds size
  · rw [if_pos hshort, if_pos hshort]
    rfl
  · have hheld : size ≤ data.length := Bytes.holds_iff.mp (Decidable.not_not.mp hshort)
    have hsize : size < UInt32.size := by decide
    rw [if_neg hshort, if_neg hshort, slice_from_start hheld]
    simp only [bind, Except.bind]
    rw [word_take (by decide) hheld hsize, word_take (by decide) hheld hsize,
      word_take (by decide) hheld hsize, word_take (by decide) hheld hsize]
    -- the four fields are those of the plain form, and from here on both check the same
    rw [apply_ite plain, apply_ite plain]
    rfl

/-- The length of a body is taken of headers that were accepted. -/
theorem Header.bodySizeStrictly_of_decode {data : Bytes} {limit : Nat} {header : Header}
    (h : Header.decode data limit = .ok header) :
    header.bodySizeStrictly = .ok header.bodySize :=
  minus_of_le (Header.decode_eq_ok_iff.mp h).2.2.1

theorem EnvelopeHeader.decodeStrictly_eq (body : Bytes) (outer : Header) :
    EnvelopeHeader.decodeStrictly body outer = plain (EnvelopeHeader.decode body outer) := by
  unfold decodeStrictly decode
  by_cases hshort : ¬ body.holds size
  · rw [if_pos hshort, if_pos hshort]
    rfl
  · have hheld : size ≤ body.length := Bytes.holds_iff.mp (Decidable.not_not.mp hshort)
    have hsize : size < UInt32.size := by decide
    have hlast : 8 < body.length := hheld
    have hkept : 8 < (body.take size).length := by
      rw [List.length_take_of_le hheld]
      decide
    have hid : (body.take size)[8] = body.getD 8 0 := by
      rw [List.getElem_take, List.getD_eq_getElem?_getD, List.getElem?_eq_getElem hlast,
        Option.getD_some]
    rw [if_neg hshort, if_neg hshort, slice_from_start hheld]
    simp only [bind, Except.bind]
    rw [word_take (by decide) hheld hsize, word_take (by decide) hheld hsize,
      byte_of_lt hkept, hid]
    rfl

namespace Reply

/-- A document that fits into what remains lies in the body. -/
theorem documentStrictlyAt_eq (body : Bytes) {offset : Nat} (hoffset : offset ≤ legacyPreamble) :
    documentStrictlyAt body offset = plain (documentAt body offset) := by
  have hsmall : offset ≤ 20 := hoffset
  unfold documentStrictlyAt documentAt
  by_cases hshort : body.length - offset < 5
  · simp only [if_pos hshort]
    rfl
  · have hword : word body offset = .ok (Bytes.toUInt32 (body.drop offset)) :=
      word_of_le (by omega) (by simp only [UInt32.size]; omega)
    have hfield : (Bytes.toUInt32 (body.drop offset)).toInt32 = Bytes.toInt32 (body.drop offset) :=
      rfl
    have hbound : (Bytes.toInt32 (body.drop offset)).toInt < 2 ^ 31 := Int32.toInt_lt _
    simp only [if_neg hshort, hword, bind, Except.bind, hfield]
    generalize (Bytes.toInt32 (body.drop offset)).toInt = declared at hbound ⊢
    by_cases hrefused : declared < 5 ∨ ((body.length - offset : Nat) : Int) < declared
    · rw [if_pos hrefused, if_pos hrefused]
      rfl
    · have hstop : plus offset declared.toNat = .ok (offset + declared.toNat) :=
        plus_of_lt (by simp only [UInt32.size]; omega)
      have hslice : slice body offset (offset + declared.toNat) =
          .ok ((body.drop offset).take declared.toNat) := by
        rw [slice_of_le (Nat.le_add_right _ _) (by omega), Nat.add_sub_cancel_left]
      rw [if_neg hrefused, if_neg hrefused, hstop]
      dsimp only
      rw [hslice]
      dsimp only
      cases RawDocument.ofBytes? ((body.drop offset).take declared.toNat) with
      | none => rfl
      | some document => rfl

theorem msgDocumentStrictly_eq (body : Bytes) :
    msgDocumentStrictly body = plain (msgDocument body) := by
  unfold msgDocumentStrictly msgDocument
  by_cases hshort : body.length < 5
  · rw [if_pos hshort, if_pos hshort]
    rfl
  · have hflags : word body 0 = .ok body.toUInt32 := word_of_le (by omega) (by decide)
    have hkind : byte body 4 = .ok (body.getD 4 0) := by
      rw [byte_of_lt (by omega), List.getD_eq_getElem?_getD, List.getElem?_eq_getElem (by omega),
        Option.getD_some]
    have hstop : sectionsEnd body ≤ body.length := by
      unfold sectionsEnd
      split <;> omega
    have hsections : (if body.toUInt32 &&& 1 ≠ 0 then body.length - 4 else body.length) =
        sectionsEnd body := by
      unfold sectionsEnd announcesChecksum
      simp only [decide_eq_true_eq]
    rw [if_neg hshort, if_neg hshort, hflags]
    simp only [bind, Except.bind, hkind, hsections, slice_from_start hstop]
    rw [documentStrictlyAt_eq _ (by decide), apply_ite plain]
    rfl

theorem legacyDocumentStrictly_eq (body : Bytes) :
    legacyDocumentStrictly body = plain (legacyDocument body) := by
  unfold legacyDocumentStrictly legacyDocument
  by_cases hshort : body.length < legacyPreamble
  · rw [if_pos hshort, if_pos hshort]
    rfl
  · have hheld : 20 ≤ body.length := Nat.le_of_not_lt hshort
    have hcount : word body 16 = .ok (Bytes.toUInt32 (body.drop 16)) :=
      word_of_le hheld (by decide)
    rw [if_neg hshort, if_neg hshort, hcount]
    simp only [bind, Except.bind]
    rw [documentStrictlyAt_eq body (Nat.le_refl _), apply_ite plain]
    rfl

/-- **Finding the document of a reply** stays in range, in any body. -/
theorem parseStrictly_eq (header : InboundHeader) (body : Bytes) (requestId : UInt32) :
    parseStrictly header body requestId = plain (parse header body requestId) := by
  unfold parseStrictly parse
  by_cases hother : header.responseTo ≠ requestId
  · rw [if_pos hother, if_pos hother]
    rfl
  · rw [if_neg hother, if_neg hother, msgDocumentStrictly_eq, legacyDocumentStrictly_eq]
    by_cases hmsg : header.opcode = Opcode.msg.value
    · simp only [if_pos hmsg]
      cases msgDocument body with
      | error fault => rfl
      | ok document => rfl
    · simp only [if_neg hmsg]
      by_cases hlegacy : header.opcode = Opcode.reply.value
      · simp only [if_pos hlegacy]
        cases legacyDocument body with
        | error fault => rfl
        | ok document => rfl
      · simp only [if_neg hlegacy]
        rfl

end Reply

/-! ## Receiving -/

namespace StrictAction

variable {σ α β : Type}

/-- What has nothing to run out of goes on to what has nothing to run out of. -/
theorem ofAction_bind (first : Action σ α) (rest : α → Action σ β) :
    ofAction (first >>= rest) = ofAction first >>= fun a => ofAction (rest a) := by
  funext state
  cases hfirst : first state with
  | ok a mid => simp only [ofAction, bind, EStateM.bind, hfirst]
  | error fault mid => simp only [ofAction, bind, EStateM.bind, hfirst]

theorem ofAction_ofResult (result : Except LinkError α) :
    ofAction (Action.ofResult result : Action σ α) = ofResult (plain result) := by
  cases result with
  | ok value => rfl
  | error fault => rfl

theorem ofAction_holding (buffer : Buffer) (operation : Action σ α) :
    ofAction (Action.holding buffer operation) = holding buffer (ofAction operation) := by
  funext state
  cases hresult : operation state with
  | ok value next => simp only [ofAction, Action.holding, holding, hresult]
  | error fault next => simp only [ofAction, Action.holding, holding, hresult]

/-- A computation that stays in range is gone on from by its result. -/
theorem ofResult_bind_of_ok {result : Except Mishap α} {value : α} (h : result = .ok value)
    (rest : α → StrictAction σ β) : (ofResult result >>= rest) = rest value := by
  rw [h]
  rfl

/-- Two sequences are the same if they begin by the same computation and go on alike from every
result that it has. -/
theorem ofResult_bind_congr {result : Except LinkError α} {rest other : α → StrictAction σ β}
    (h : ∀ value, result = .ok value → rest value = other value) :
    (ofResult (plain result) >>= rest) = (ofResult (plain result) >>= other) := by
  cases result with
  | ok value => exact h value rfl
  | error fault => rfl

end StrictAction

namespace Connection

open StrictAction

variable {σ : Type}

theorem unpackStrictly_eq (connection : Connection σ) (header : Header) (body : Bytes)
    (limit : Nat) :
    connection.unpackStrictly header body limit =
      ofAction (connection.unpack header body limit) := by
  unfold unpackStrictly unpack
  simp only [ofAction_bind, ofAction_ofResult, EnvelopeHeader.decodeStrictly_eq]
  refine ofResult_bind_congr fun envelope henvelope => ?_
  have hheld : EnvelopeHeader.size ≤ body.length := by
    rw [(EnvelopeHeader.decode_eq_ok henvelope).2, List.length_append, EnvelopeHeader.length_encode]
    exact Nat.le_add_right _ _
  refine ofResult_bind_congr fun plan _ => ?_
  simp only [slice_to_end hheld]
  rfl

/-- Where the length of the body is in range, a body is assembled strictly as it is plainly. -/
theorem assembleStrictly_eq (connection : Connection σ) {header : Header}
    (hsize : header.bodySizeStrictly = .ok header.bodySize) (body : Buffer) (limit : Nat) :
    connection.assembleStrictly header body limit =
      ofAction (connection.assemble header body limit) := by
  unfold assembleStrictly assemble
  rw [ofResult_bind_of_ok hsize]
  by_cases hmismatch : body.bytes.length ≠ header.bodySize
  · rw [if_pos hmismatch, if_pos hmismatch]
  · rw [if_neg hmismatch, if_neg hmismatch]
    by_cases henvelope : header.isEnvelope
    · rw [if_pos henvelope, if_pos henvelope, ofAction_holding, unpackStrictly_eq]
    · rw [if_neg henvelope, if_neg henvelope]
      rfl

/-- **Receiving** stays in range, whatever the transport gives. -/
theorem receiveStrictlyWithin_eq (connection : Connection σ) (mode : Mode) (limit : Nat) :
    connection.receiveStrictlyWithin mode limit =
      ofAction (connection.receiveWithin mode limit) := by
  unfold receiveStrictlyWithin receiveWithin
  simp only [ofAction_bind, ofAction_holding, ofAction_ofResult, Header.decodeStrictly_eq]
  refine bind_congr fun _ => bind_congr fun front => congrArg (holding front) ?_
  refine ofResult_bind_congr fun header hdecode => ?_
  have hsize := Header.bodySizeStrictly_of_decode hdecode
  rw [ofResult_bind_of_ok hsize]
  exact bind_congr fun body => connection.assembleStrictly_eq hsize body limit

end Connection

end CommandLink
