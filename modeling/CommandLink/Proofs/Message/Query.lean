import CommandLink.Message.Query
import CommandLink.Proofs.Message.Outbound

/-!
# Legacy commands are read as queries

A legacy command names its collection in front of the document, as a text that ends at a zero byte.
The text is written as it is. So a command is read back from its bytes just if the name of its
database holds no zero character (`legacy_query_read_iff`): at the first one the name that is read
ends, and all that follows is looked for too early (`misnamed_query`).
-/

namespace CommandLink

/-! ## Zero bytes in texts -/

namespace Bytes

theorem zero_eq_ofNat_iff {n : Nat} : 0 = UInt8.ofNat n ↔ n % 256 = 0 := by
  rw [← UInt8.toNat_inj, UInt8.toNat_ofNat']
  exact eq_comm

/-- Only the zero character is written with a zero byte: all bytes of a longer form have their
highest bit set. -/
theorem zero_mem_utf8EncodeChar_iff {c : Char} : 0 ∈ String.utf8EncodeChar c ↔ c = '\x00' := by
  have hzero : c = '\x00' ↔ c.val.toNat = 0 := by
    rw [Char.ext_iff, ← UInt32.toNat_inj]
    rfl
  rw [hzero]
  fun_cases String.utf8EncodeChar c with
  | case1 v hone =>
    simp only [List.mem_singleton, zero_eq_ofNat_iff]
    omega
  | case2 v hone htwo =>
    simp only [List.mem_cons, List.not_mem_nil, or_false, zero_eq_ofNat_iff, v]
    omega
  | case3 v hone htwo hthree =>
    simp only [List.mem_cons, List.not_mem_nil, or_false, zero_eq_ofNat_iff, v]
    omega
  | case4 v hone htwo hthree =>
    simp only [List.mem_cons, List.not_mem_nil, or_false, zero_eq_ofNat_iff, v]
    omega

/-- A text is written with a zero byte just if it holds the zero character. -/
theorem zero_mem_ofText_iff {text : String} : 0 ∈ ofText text ↔ '\x00' ∈ text.toList := by
  simp only [ofText_eq_flatMap, List.mem_flatMap, zero_mem_utf8EncodeChar_iff, exists_eq_right]

end Bytes

/-! ## What is read of a body -/

/-- **What is read of a body**: a name without zero bytes, and what its place in the body is. -/
theorem LegacyQuery.ofBody?_append {front name rest : Bytes} (hfront : front.length = flagsSize)
    (hname : 0 ∉ name) (hrest : numbersSize ≤ rest.length) :
    ofBody? (front ++ (name ++ 0 :: rest)) =
      some ⟨front.toInt32, name, Bytes.toInt32 rest, Bytes.toInt32 (rest.drop 4),
        flagsSize + name.length + 1 + numbersSize, rest.drop numbersSize⟩ := by
  have hnonzero : ∀ byte ∈ name, decide (byte ≠ 0) = true := by
    intro byte hmem
    apply decide_eq_true
    rintro rfl
    exact hname hmem
  have hdrop : (front ++ (name ++ 0 :: rest)).drop flagsSize = name ++ 0 :: rest :=
    List.drop_left' hfront
  have htake : (name ++ 0 :: rest).takeWhile (· ≠ 0) = name := by
    rw [List.takeWhile_append_of_pos hnonzero]
    exact List.append_nil name
  have hleft : (name ++ 0 :: rest).dropWhile (· ≠ 0) = 0 :: rest := by
    rw [List.dropWhile_append_of_pos hnonzero]
    rfl
  have hflags : Bytes.toInt32 (front ++ (name ++ 0 :: rest)) = front.toInt32 :=
    Bytes.toInt32_append (Nat.le_of_eq hfront.symm) _
  unfold ofBody?
  dsimp only
  rw [hdrop, hleft, htake, hflags]
  dsimp only
  rw [if_neg (Nat.not_lt.mpr hrest)]

namespace Command

variable {requestId : UInt32} {database : String} {command : Document}

/-- What follows the header of a legacy command: the name of its collection stands between the flags
and the numbers, ended by a zero byte. -/
theorem body_of_legacy {limits : MessageLimits} {out : OutboundMessage}
    (h : (ofCommand requestId database command).legacy.encode limits = .ok out) :
    ∃ document, command.encode? = some document ∧
      out.body = Bytes.ofInt32 0 ++ (Bytes.ofText (CollectionName.ofCommand database).qualified ++
        0 :: (Bytes.ofInt32 0 ++ (Bytes.ofInt32 (-1) ++ document))) ∧
      out.bytes.drop out.documentPosition = document ∧
      out.documentPosition = Header.size + (LegacyQuery.flagsSize +
        (Bytes.ofText (CollectionName.ofCommand database).qualified).length + 1 +
          LegacyQuery.numbersSize) := by
  obtain ⟨document, hdocument, -, hbytes, -, hposition, -⟩ := encode_eq_ok h
  refine ⟨document, hdocument, ?_, ?_, ?_⟩
  · rw [OutboundMessage.body, hbytes, Header.drop_encode_append]
    simp only [preamble, ofCommand, legacy, List.append_assoc, List.cons_append,
      List.nil_append]
  · obtain ⟨hdropped, -⟩ := drop_documentPosition h
    exact Option.some.inj (hdropped.symm.trans hdocument)
  · rw [hposition]
    simp only [preamble, ofCommand, legacy, List.length_append, Bytes.length_ofInt32,
      List.length_singleton, LegacyQuery.flagsSize, LegacyQuery.numbersSize, Nat.add_assoc]

end Command

/-- The name of the collection that commands go to has a zero byte just if that of the database
has. -/
theorem CollectionName.zero_mem_qualified_iff {database : String} :
    0 ∈ Bytes.ofText (ofCommand database).qualified ↔ '\x00' ∈ database.toList := by
  have hrest : '\x00' ∉ ".".toList ∧ '\x00' ∉ commandTarget.toList := by decide
  rw [Bytes.zero_mem_ofText_iff, qualified, String.toList_append, String.toList_append,
    List.mem_append, List.mem_append]
  constructor
  · rintro ((hdatabase | hdot) | htarget)
    · exact hdatabase
    · exact absurd hdot hrest.1
    · exact absurd htarget hrest.2
  · exact fun hdatabase => .inl (.inl hdatabase)

/-- **When a legacy command is read back.** Of any legacy command that could be put into bytes a
query can be read. The query names the collection of the command in full, skips nothing and asks for
one reply, and its document starts at the position that was noted and is that of the command, all of
this just if the name of the database holds no zero character. -/
theorem legacy_query_read_iff {requestId : UInt32} {database : String} {command : Document}
    {limits : MessageLimits} {out : OutboundMessage}
    (hencode : (Command.ofCommand requestId database command).legacy.encode limits = .ok out) :
    ∃ query document, LegacyQuery.ofBody? out.body = some query ∧
      command.encode? = some document ∧ out.bytes.drop out.documentPosition = document ∧
      (query.name = Bytes.ofText (CollectionName.ofCommand database).qualified ∧
          query.skip = 0 ∧ query.count = -1 ∧
          Header.size + query.position = out.documentPosition ∧ query.document = document ↔
        '\x00' ∉ database.toList) := by
  obtain ⟨document, hdocument, hbody, hdropped, hposition⟩ := Command.body_of_legacy hencode
  have hflags : (Bytes.ofInt32 0).length = LegacyQuery.flagsSize := Bytes.length_ofInt32 0
  have hnumbers : LegacyQuery.numbersSize ≤
      (Bytes.ofInt32 0 ++ (Bytes.ofInt32 (-1) ++ document)).length := by
    simp only [List.length_append, Bytes.length_ofInt32, LegacyQuery.numbersSize]
    omega
  rw [← CollectionName.zero_mem_qualified_iff, hbody]
  by_cases hzero : 0 ∈ Bytes.ofText (CollectionName.ofCommand database).qualified
  · -- the name that is read ends at the first zero byte of the name that was written
    obtain ⟨before, after, hname, hbefore⟩ := List.eq_append_cons_of_mem hzero
    rw [hname, List.append_assoc, List.cons_append,
      LegacyQuery.ofBody?_append hflags hbefore (by
        rw [List.length_append, List.length_cons]
        omega)]
    refine ⟨_, document, rfl, hdocument, hdropped, ?_⟩
    refine ⟨fun ⟨hsame, _⟩ => ?_, fun hnone => absurd (by simp) hnone⟩
    have hheld : 0 ∈ before ++ 0 :: after := List.mem_append_right before List.mem_cons_self
    rw [← hsame] at hheld
    exact absurd hheld hbefore
  · rw [LegacyQuery.ofBody?_append hflags hzero hnumbers]
    refine ⟨_, document, rfl, hdocument, hdropped, fun _ => hzero, fun _ => ?_⟩
    refine ⟨rfl, Bytes.toInt32_ofInt32_append 0 _, ?_, hposition.symm, ?_⟩
    · dsimp only
      rw [Bytes.drop_ofInt32_append, Bytes.toInt32_ofInt32_append]
    · dsimp only
      rw [← List.append_assoc]
      exact List.drop_left' rfl

/-- A ping of a database with a plain name is read back. -/
theorem legacy_query_read_iff_app :
    ∃ out query,
      (Command.ofCommand 7 "app" [("ping", .int32 1)]).legacy.encode .initial = .ok out ∧
      LegacyQuery.ofBody? out.body = some query ∧ query.name = Bytes.ofText "app.$cmd" ∧
      query.skip = 0 ∧ query.count = -1 ∧ Header.size + query.position = out.documentPosition := by
  obtain ⟨query, document, hquery, -, -, hread⟩ :=
    @legacy_query_read_iff 7 "app" [("ping", .int32 1)] .initial _ rfl
  obtain ⟨hname, hskip, hcount, hposition, -⟩ := hread.mpr (by decide)
  exact ⟨_, query, rfl, hquery, hname, hskip, hcount, hposition⟩

/-- **A name with a zero character is cut short**: a ping of such a database is put into bytes, and
what is read there is the name of no database, and a document before that of the ping. -/
theorem misnamed_query :
    ∃ out query,
      (Command.ofCommand 7 "a\x00b" [("ping", .int32 1)]).legacy.encode .initial = .ok out ∧
      LegacyQuery.ofBody? out.body = some query ∧ query.name = Bytes.ofText "a" ∧
      query.name ≠ Bytes.ofText (CollectionName.ofCommand "a\x00b").qualified ∧
      Header.size + query.position < out.documentPosition ∧
      query.document ≠ out.bytes.drop out.documentPosition :=
  ⟨_, _, rfl, rfl, by decide, by decide, by decide, by decide⟩

end CommandLink
