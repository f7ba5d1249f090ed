import Mathlib.Algebra.Group.Nat.Defs
import CommandLink.Bytes

/-!
# Fields are read back

A field of `width` bytes holds a number modulo `256 ^ width`. Reading what was written gives the
truncated number back, and writing what was read gives the bytes.
-/

namespace CommandLink.Bytes

/-! ## Numbers -/

theorem toNat_lt (bytes : Bytes) : bytes.toNat < 256 ^ bytes.length := by
  induction bytes with
  | nil => simp [toNat]
  | cons b rest ih =>
    have hb := b.toNat_lt
    simp only [toNat, List.length_cons, Nat.pow_succ]
    omega

theorem toNat_ofNat (width n : Nat) : (ofNat width n).toNat = n % 256 ^ width := by
  induction width generalizing n with
  | zero => simp [ofNat, toNat, Nat.mod_one]
  | succ width ih =>
    simp only [ofNat, toNat, UInt8.toNat_ofNat', ih]
    rw [show 256 ^ (width + 1) = 256 * 256 ^ width from Nat.pow_succ', Nat.mod_mul]

theorem ofNat_toNat (bytes : Bytes) : ofNat bytes.length bytes.toNat = bytes := by
  induction bytes with
  | nil => rfl
  | cons b rest ih =>
    have hb := b.toNat_lt
    have hlow : UInt8.ofNat (b.toNat + 256 * toNat rest) = b := by
      apply UInt8.toNat_inj.mp
      simp only [UInt8.toNat_ofNat']
      omega
    have hhigh : (b.toNat + 256 * toNat rest) / 256 = toNat rest := by omega
    simp only [List.length_cons, toNat, ofNat, hlow, hhigh, ih]

/-- Bytes that are strung together write the numbers of both, the second above the first. -/
theorem toNat_append (low high : Bytes) :
    toNat (low ++ high) = toNat low + 256 ^ low.length * toNat high := by
  induction low with
  | nil => simp only [List.nil_append, toNat, List.length_nil, Nat.pow_zero, Nat.one_mul,
      Nat.zero_add]
  | cons b low ih =>
    rw [List.cons_append, toNat, toNat, ih, List.length_cons, Nat.pow_succ', Nat.mul_add,
      Nat.mul_assoc, Nat.add_assoc]

/-- Where some bytes are taken off, fewer are left. -/
theorem length_drop_lt {bytes : Bytes} {count bound : Nat} (hcount : 0 < count)
    (hbound : bytes.length < bound + 1) (hleft : bytes.drop count ≠ []) :
    (bytes.drop count).length < bound := by
  have hpos := List.length_pos_iff.mpr hleft
  rw [List.length_drop] at hpos ⊢
  omega

/-! ## Bytes in an array -/

/-- The bytes of an array from an index on. -/
def ahead (data : ByteArray) (index : Nat) : Bytes := data.data.toList.drop index

section Ahead

variable {data : ByteArray} {index : Nat} {byte : UInt8} {front rest : Bytes}

theorem length_ahead (data : ByteArray) (index : Nat) :
    (ahead data index).length = data.size - index := List.length_drop

/-- An array holds what is ahead in it. -/
theorem length_le_of_ahead (h : ahead data index = front ++ rest) :
    front.length ≤ data.size - index := by
  rw [← length_ahead, h, List.length_append]
  exact Nat.le_add_right _ _

/-- The byte at the index comes first. -/
theorem getElem?_of_ahead (h : ahead data index = byte :: rest) : data[index]? = some byte := by
  have hfirst : data.data.toList[index]? = some byte := by
    have hhead := congrArg (·[0]?) h
    simpa only [ahead, List.getElem?_drop, Nat.add_zero, List.getElem?_cons_zero] using hhead
  have hindex : index < data.size := (List.getElem?_eq_some_iff.mp hfirst).1
  rw [getElem?_pos data index hindex, ← hfirst, Array.getElem?_toList,
    getElem?_pos data.data index hindex]
  rfl

/-- Behind the front comes the rest. -/
theorem ahead_add_length (h : ahead data index = front ++ rest) :
    ahead data (index + front.length) = rest := by
  rw [ahead, ← List.drop_drop]
  exact (congrArg (List.drop front.length) h).trans List.drop_left

theorem ahead_succ (h : ahead data index = byte :: rest) : ahead data (index + 1) = rest :=
  ahead_add_length (show ahead data index = [byte] ++ rest from h)

/-- A byte that is appended stands last. -/
theorem toList_push (out : ByteArray) (byte : UInt8) :
    (out.push byte).data.toList = out.data.toList ++ [byte] := by
  rw [ByteArray.data_push, Array.toList_push]

/-- What is appended of an array comes last, the bytes from the offset on. -/
theorem toList_appendSlice (hahead : ahead data index = front ++ rest) (out : ByteArray) :
    (appendSlice data index front.length out).data.toList = out.data.toList ++ front := by
  induction front generalizing index out with
  | nil => rw [List.append_nil]; rfl
  | cons byte front ih =>
    rw [List.length_cons, appendSlice, getElem?_of_ahead hahead, Option.getD_some,
      ih (ahead_succ hahead), toList_push, List.append_assoc, List.singleton_append]

/-- The part of an array between two indices is what comes between them in any bytes that begin
like the array. -/
theorem drop_eq_extract_append {out : ByteArray} {whole more : Bytes} {start stop : Nat}
    (hwhole : out.data.toList ++ more = whole) (hstart : start ≤ stop) (hstop : stop ≤ out.size) :
    whole.drop start = (out.extract start stop).data.toList ++ whole.drop stop ∧
      (out.extract start stop).data.toList.length = stop - start := by
  have hlength : stop ≤ out.data.toList.length := hstop
  have hpart : (out.extract start stop).data.toList = (whole.take stop).drop start := by
    rw [ByteArray.data_extract, Array.toList_extract, ← hwhole,
      List.take_append_of_le_length hlength, List.extract_eq_take_drop, List.drop_take]
  have htake : (whole.take stop).length = stop := by
    rw [List.length_take, ← hwhole, List.length_append]
    omega
  rw [hpart]
  constructor
  · conv => lhs; rw [← List.take_append_drop stop whole]
    exact List.drop_append_of_le_length (by omega)
  · rw [List.length_drop, htake]

end Ahead

/-! ## Words -/

/-- A word is read back from the front of what it was written to. -/
@[simp] theorem toUInt32_ofUInt32_append (word : UInt32) (rest : Bytes) :
    toUInt32 (ofUInt32 word ++ rest) = word := by
  have htake : (ofUInt32 word ++ rest).take 4 = ofUInt32 word :=
    List.take_left' (length_ofUInt32 word)
  have hlt := word.toNat_lt
  rw [toUInt32, htake, ofUInt32, toNat_ofNat, Nat.mod_eq_of_lt (by simpa using hlt)]
  simp

@[simp] theorem toInt32_ofInt32_append (word : Int32) (rest : Bytes) :
    toInt32 (ofInt32 word ++ rest) = word := by
  simp [toInt32, ofInt32]

/-- What follows a field is not read. -/
theorem toUInt32_append {bytes : Bytes} (h : 4 ≤ bytes.length) (rest : Bytes) :
    toUInt32 (bytes ++ rest) = toUInt32 bytes := by
  rw [toUInt32, List.take_append_of_le_length h, toUInt32]

theorem toInt32_append {bytes : Bytes} (h : 4 ≤ bytes.length) (rest : Bytes) :
    toInt32 (bytes ++ rest) = toInt32 bytes := by
  rw [toInt32, toUInt32_append h, toInt32]

/-- A front of four bytes is written back from the word it reads as. -/
theorem ofUInt32_toUInt32 {bytes : Bytes} (h : 4 ≤ bytes.length) :
    ofUInt32 (toUInt32 bytes) = bytes.take 4 := by
  have hlen : (bytes.take 4).length = 4 := by simp [h]
  have hlt := toNat_lt (bytes.take 4)
  rw [hlen] at hlt
  have := ofNat_toNat (bytes.take 4)
  rw [hlen] at this
  rw [ofUInt32, toUInt32, UInt32.toNat_ofNat', Nat.mod_eq_of_lt (by simpa using hlt), this]

theorem ofInt32_toInt32 {bytes : Bytes} (h : 4 ≤ bytes.length) :
    ofInt32 (toInt32 bytes) = bytes.take 4 := by
  simp [ofInt32, toInt32, ofUInt32_toUInt32 h]

/-- What follows a field of known size. -/
theorem drop_ofUInt32_append (word : UInt32) (rest : Bytes) :
    (ofUInt32 word ++ rest).drop 4 = rest :=
  List.drop_left' (length_ofUInt32 word)

/-- What follows a signed field. -/
theorem drop_ofInt32_append (word : Int32) (rest : Bytes) :
    (ofInt32 word ++ rest).drop 4 = rest :=
  List.drop_left' (length_ofInt32 word)

/-- A field is read alike in all the bytes and in those in front that hold it. -/
theorem toUInt32_drop_take {bytes : Bytes} {start stop : Nat} (h : start + 4 ≤ stop) :
    toUInt32 ((bytes.take stop).drop start) = toUInt32 (bytes.drop start) := by
  simp only [toUInt32, List.drop_take, List.take_take]
  rw [Nat.min_eq_left (by omega)]

/-- A signed field is read alike too. -/
theorem toInt32_drop_take {bytes : Bytes} {start stop : Nat} (h : start + 4 ≤ stop) :
    toInt32 ((bytes.take stop).drop start) = toInt32 (bytes.drop start) := by
  rw [toInt32, toInt32, toUInt32_drop_take h]

/-! ## Texts -/

/-- A text is written character by character. -/
theorem ofText_eq_flatMap (text : String) :
    ofText text = text.toList.flatMap String.utf8EncodeChar := by
  rw [ofText, ← String.utf8Encode_toList]
  exact List.toList_data_toByteArray

end CommandLink.Bytes
