import CommandLink.Connection.Profile

/-!
# What an answer leaves open

After the server's answer to the opening command all that is known of it comes from the answer and
from the connection's own id, but for two limits. A limit on messages that the answer leaves open is
the usual one; one on documents or batches stays at what was known before. So of one connection two
profiles are answered alike just if they agree on what the answer leaves open
(`answered_alike_iff`), and limits that were lowered before outlast an answer that tells none
(`limits_carried_over`).
-/

namespace CommandLink

/-! ## Numbers in an answer -/

/-- The number that a value counts: of a double, the integer that it is cut off to. -/
inductive Bson.Counts : Bson → Int → Prop
  | int32 (value : Int32) : Counts (.int32 value) value.toInt
  | int64 (value : Int64) : Counts (.int64 value) value.toInt
  | double (bits : Binary64) : Counts (.double bits) bits.toInt64.toInt

namespace Bson

/-- What counts a number is read as it. -/
theorem number?_eq_some_iff {value : Bson} {n : Int64} :
    value.number? = some n ↔ value.Counts n.toInt := by
  constructor
  · intro h
    cases value with
    | int32 value =>
      cases h
      have := Counts.int32 value
      rwa [← Int32.toInt_toInt64] at this
    | int64 value =>
      obtain rfl : value = n := Option.some.inj h
      exact .int64 value
    | double bits =>
      cases h
      exact .double bits
    | _ => cases h
  · intro h
    generalize hn : n.toInt = m at h
    cases h with
    | int32 value =>
      rw [← Int32.toInt_toInt64, Int64.toInt_inj] at hn
      rw [hn, number?]
    | int64 value => rw [Int64.toInt_inj.mp hn, number?]
    | double bits => rw [Int64.toInt_inj.mp hn, number?]

/-- What counts a number that is not negative is a size. -/
theorem size?_eq_some_iff {value : Bson} {n : Nat} : value.size? = some n ↔ value.Counts n := by
  rw [size?, Option.bind_eq_some_iff]
  constructor
  · rintro ⟨m, hm, hsize⟩
    split at hsize
    · rename_i hpos
      cases hsize
      rw [Int.toNat_of_nonneg hpos]
      exact number?_eq_some_iff.mp hm
    · cases hsize
  · intro h
    obtain ⟨m, hm⟩ : ∃ m : Int64, m.toInt = n := by
      generalize (n : Int) = k at h
      cases h with
      | int32 value => exact ⟨value.toInt64, Int32.toInt_toInt64 value⟩
      | int64 value => exact ⟨value, rfl⟩
      | double bits => exact ⟨bits.toInt64, rfl⟩
    refine ⟨m, number?_eq_some_iff.mpr (hm ▸ h), ?_⟩
    rw [if_pos (by omega), hm, Int.toNat_natCast]

end Bson

namespace ConnectionProfile

variable {reply : Document} {key : String}

/-- An answer tells a number under a name. -/
def Tells (reply : Document) (key : String) (n : Int) : Prop :=
  ∃ value, reply.get? key = some value ∧ value.Counts n

/-- An answer leaves a limit open: under its name it tells no number that is a size. -/
def LeavesOpen (reply : Document) (key : String) : Prop := ∀ n : Nat, ¬ Tells reply key n

/-- A limit is the size that the answer tells, or another one where the answer leaves it open. -/
def IsToldOr (reply : Document) (key : String) (fallback size : Nat) : Prop :=
  (∀ n : Nat, Tells reply key n → size = n) ∧ (LeavesOpen reply key → size = fallback)

theorem sizeIn?_eq_some_iff {n : Nat} : sizeIn? reply key = some n ↔ Tells reply key n := by
  simp only [sizeIn?, Option.bind_eq_some_iff, Bson.size?_eq_some_iff, Tells]

theorem sizeIn?_eq_none_iff : sizeIn? reply key = none ↔ LeavesOpen reply key := by
  simp only [LeavesOpen, ← sizeIn?_eq_some_iff, Option.eq_none_iff_forall_ne_some, ne_eq]

theorem isToldOr_getD (fallback : Nat) :
    IsToldOr reply key fallback ((sizeIn? reply key).getD fallback) := by
  refine ⟨fun n htold => ?_, fun hopen => ?_⟩
  · rw [sizeIn?_eq_some_iff.mpr htold, Option.getD_some]
  · rw [sizeIn?_eq_none_iff.mpr hopen, Option.getD_none]

/-- Two limits that were known before come to the same just if they are the same or the answer tells
the limit. -/
theorem getD_sizeIn?_eq_iff {one other : Nat} :
    (sizeIn? reply key).getD one = (sizeIn? reply key).getD other ↔
      (LeavesOpen reply key → one = other) := by
  rw [← sizeIn?_eq_none_iff]
  cases sizeIn? reply key with
  | none => simp only [Option.getD_none, true_imp_iff]
  | some n => simp only [Option.getD_some, reduceCtorEq, false_imp_iff]

/-! ## Compressors and ids -/

/-- The compressors that an answer advertises are the texts in its list, in order. -/
theorem map_advertised {items : List Bson} (h : reply.get? "compression" = some (.array items)) :
    (advertised reply).map .string = items.filter fun item => item.text?.isSome := by
  have hadvertised : advertised reply = items.filterMap Bson.text? := by
    rw [advertised, h]
    rfl
  rw [hadvertised]
  clear h hadvertised
  induction items with
  | nil => rfl
  | cons item rest ih =>
    cases item with
    | string text => exact congrArg (Bson.string text :: ·) ih
    | _ => exact ih

/-- An answer without such a list advertises none. -/
theorem advertised_eq_nil (h : ∀ items, reply.get? "compression" ≠ some (.array items)) :
    advertised reply = [] := by
  unfold advertised
  cases hget : reply.get? "compression" with
  | none => rfl
  | some value =>
    cases value with
    | array items => exact absurd hget (h items)
    | _ => rfl

variable {current other : ConnectionProfile}

/-- A number under `connectionId` is the one that the server has given the connection. -/
theorem connection_ofReply_of_tells {n : Int64} (h : Tells reply "connectionId" n.toInt) :
    (current.ofReply reply).connection = current.connection.knownAs n := by
  obtain ⟨value, hvalue, hcounts⟩ := h
  simp only [ofReply, hvalue, Option.bind_some, Bson.number?_eq_some_iff.mpr hcounts]

/-- Without one the id stays as it was. -/
theorem connection_ofReply_of_not_tells (h : ∀ n, ¬ Tells reply "connectionId" n) :
    (current.ofReply reply).connection = current.connection := by
  have hnone : (reply.get? "connectionId").bind Bson.number? = none := by
    refine Option.eq_none_iff_forall_ne_some.mpr fun n hn => ?_
    obtain ⟨value, hvalue, hnumber⟩ := Option.bind_eq_some_iff.mp hn
    exact h n.toInt ⟨value, hvalue, Bson.number?_eq_some_iff.mp hnumber⟩
  simp only [ofReply, hnone]

/-! ## The answer -/

/-- **Two profiles of one connection** come to the same with an answer just if they agree on those
limits on documents and batches that it leaves open. -/
theorem ofReply_eq_iff (h : current.connection = other.connection) :
    current.ofReply reply = other.ofReply reply ↔
      (LeavesOpen reply "maxBsonObjectSize" →
        current.limits.documentSize = other.limits.documentSize) ∧
      (LeavesOpen reply "maxWriteBatchSize" →
        current.limits.batchCount = other.limits.batchCount) := by
  rw [← getD_sizeIn?_eq_iff, ← getD_sizeIn?_eq_iff]
  simp only [ofReply, h, ConnectionProfile.mk.injEq, MessageLimits.mk.injEq, true_and, and_true]

end ConnectionProfile

open ConnectionProfile in
/-- **What is known after an answer.** Two profiles of one connection are answered alike just if
they agree on those limits on documents and batches that the answer leaves open; all else that was
known before is forgotten. The limit on messages is the one told, or the usual one; those on
documents and batches are the ones told, or those known before. The compressors are the texts in the
list that the answer advertises, in order. The connection keeps its server and its own number, and
the server's number is replaced just if the answer tells one. -/
theorem answered_alike_iff (current : ConnectionProfile) (reply : Document) :
    let told := current.ofReply reply
    (∀ other : ConnectionProfile, current.connection = other.connection →
      (told = other.ofReply reply ↔
        (LeavesOpen reply "maxBsonObjectSize" →
          current.limits.documentSize = other.limits.documentSize) ∧
        (LeavesOpen reply "maxWriteBatchSize" →
          current.limits.batchCount = other.limits.batchCount))) ∧
    IsToldOr reply "maxMessageSizeBytes" 48000000 told.limits.messageSize ∧
    IsToldOr reply "maxBsonObjectSize" current.limits.documentSize told.limits.documentSize ∧
    IsToldOr reply "maxWriteBatchSize" current.limits.batchCount told.limits.batchCount ∧
    (∀ items, reply.get? "compression" = some (.array items) →
      told.compressors.map .string = items.filter fun item => item.text?.isSome) ∧
    ((∀ items, reply.get? "compression" ≠ some (.array items)) → told.compressors = []) ∧
    told.connection.server = current.connection.server ∧
    told.connection.ownNumber = current.connection.ownNumber ∧
    (∀ n : Int64, Tells reply "connectionId" n.toInt → told.connection.serverNumber = some n) ∧
    ((∀ n, ¬ Tells reply "connectionId" n) →
      told.connection.serverNumber = current.connection.serverNumber) := by
  intro told
  have hkept : told.connection.server = current.connection.server ∧
      told.connection.ownNumber = current.connection.ownNumber := by
    dsimp only [told, ofReply]
    split <;> exact ⟨rfl, rfl⟩
  refine ⟨fun other => ofReply_eq_iff, isToldOr_getD _, isToldOr_getD _, isToldOr_getD _,
    fun items => map_advertised, advertised_eq_nil, hkept.1, hkept.2, fun n htells => ?_,
    fun hnone => ?_⟩
  · rw [connection_ofReply_of_tells htells]
    rfl
  · rw [connection_ofReply_of_not_tells hnone]

/-- An answer that tells both limits is taken alike whatever they were, and numbers the
connection. -/
theorem answered_alike_iff_told :
    let fresh := ConnectionProfile.initial ⟨.ofAddress ⟨"mock", 27017⟩, 1, none⟩
    let narrow := { fresh with limits := { documentSize := 512, batchCount := 7 } }
    let reply : Document :=
      [("maxBsonObjectSize", .int32 1024), ("maxWriteBatchSize", .int64 10),
        ("compression", .array [.int32 1, .string "zlib"]), ("connectionId", .int32 42)]
    narrow.ofReply reply = fresh.ofReply reply ∧
      (narrow.ofReply reply).limits.messageSize = 48000000 ∧
      (narrow.ofReply reply).limits.documentSize = 1024 ∧
      (narrow.ofReply reply).compressors.map Bson.string = [.string "zlib"] ∧
      (narrow.ofReply reply).connection.serverNumber = some 42 := by
  intro fresh narrow reply
  have hdocument : ConnectionProfile.Tells reply "maxBsonObjectSize" (1024 : Nat) :=
    ⟨_, rfl, .int32 1024⟩
  have hbatch : ConnectionProfile.Tells reply "maxWriteBatchSize" (10 : Nat) :=
    ⟨_, rfl, .int64 10⟩
  have hmessage : ConnectionProfile.LeavesOpen reply "maxMessageSizeBytes" := by
    rintro n ⟨value, hvalue, -⟩
    cases hvalue
  obtain ⟨halike, hmessages, hdocuments, -, hlist, -, -, -, hnumber, -⟩ :=
    answered_alike_iff narrow reply
  refine ⟨(halike fresh rfl).mpr ⟨fun hopen => absurd hdocument (hopen _),
    fun hopen => absurd hbatch (hopen _)⟩, hmessages.2 hmessage, hdocuments.1 _ hdocument, ?_,
    hnumber 42 ⟨_, rfl, .int32 42⟩⟩
  rw [hlist _ rfl]
  rfl

/-- **Lowered limits outlast an answer.** Two profiles of one connection get an answer that tells no
limit. The limit on messages is the usual one for both, those on documents and batches are not. -/
theorem limits_carried_over :
    let fresh := ConnectionProfile.initial ⟨.ofAddress ⟨"mock", 27017⟩, 1, none⟩
    let narrow := { fresh with limits := ⟨512, 1024, 7⟩ }
    let reply : Document := [("ok", .int32 1)]
    narrow.connection = fresh.connection ∧
      (fresh.ofReply reply).limits = ⟨16777216, 48000000, 1000⟩ ∧
      (narrow.ofReply reply).limits = ⟨512, 48000000, 7⟩ ∧
      narrow.ofReply reply ≠ fresh.ofReply reply := by
  refine ⟨rfl, rfl, rfl, ?_⟩
  intro halike
  exact absurd (congrArg (·.limits.documentSize) halike) (by decide)

end CommandLink
