/-!
# Bytes on the wire

Everything a stream carries is a list of bytes, and every number in it is
little endian. A field holds as much of a number as its width has room for:
writing truncates.
-/

namespace CommandLink

/-- A run of bytes, in wire order. -/
abbrev Bytes := List UInt8

namespace Bytes

/-- The `width` low bytes of a number, lowest first. -/
def ofNat : (width : Nat) → Nat → Bytes
  | 0, _ => []
  | width + 1, n => UInt8.ofNat n :: ofNat width (n / 256)

/-- The number that the bytes write, lowest byte first. -/
def toNat : Bytes → Nat
  | [] => 0
  | b :: rest => b.toNat + 256 * toNat rest

@[simp] theorem length_ofNat (width n : Nat) : (ofNat width n).length = width := by
  induction width generalizing n <;> simp [ofNat, *]

/-- A 32-bit unsigned field. -/
def ofUInt32 (word : UInt32) : Bytes := ofNat 4 word.toNat

/-- A 32-bit signed field, in two's complement. -/
def ofInt32 (word : Int32) : Bytes := ofUInt32 word.toUInt32

/-- A 64-bit unsigned field. -/
def ofUInt64 (word : UInt64) : Bytes := ofNat 8 word.toNat

/-- The 32-bit unsigned field at the front. -/
def toUInt32 (bytes : Bytes) : UInt32 := UInt32.ofNat (toNat (bytes.take 4))

/-- The 32-bit signed field at the front. -/
def toInt32 (bytes : Bytes) : Int32 := bytes.toUInt32.toInt32

/-- The 64-bit unsigned field at the front. -/
def toUInt64 (bytes : Bytes) : UInt64 := UInt64.ofNat (toNat (bytes.take 8))

@[simp] theorem length_ofUInt32 (word : UInt32) : (ofUInt32 word).length = 4 :=
  length_ofNat 4 _

@[simp] theorem length_ofInt32 (word : Int32) : (ofInt32 word).length = 4 :=
  length_ofNat 4 _

@[simp] theorem length_ofUInt64 (word : UInt64) : (ofUInt64 word).length = 8 :=
  length_ofNat 8 _

/-- Whether there are at least `count` bytes, without counting them all. -/
def holds (bytes : Bytes) (count : Nat) : Bool :=
  count = 0 || !(bytes.drop (count - 1)).isEmpty

theorem holds_iff {bytes : Bytes} {count : Nat} :
    bytes.holds count = true ↔ count ≤ bytes.length := by
  cases count with
  | zero => exact ⟨fun _ => Nat.zero_le _, fun _ => rfl⟩
  | succ n =>
    rw [show bytes.holds (n + 1) = !(bytes.drop n).isEmpty from rfl, Bool.not_eq_true',
      List.isEmpty_eq_false_iff, ne_eq, List.drop_eq_nil_iff]
    omega

/-- Append bytes of an array, from an offset on. -/
def appendSlice (data : ByteArray) : (offset count : Nat) → ByteArray → ByteArray
  | _, 0, out => out
  | offset, count + 1, out =>
    appendSlice data (offset + 1) count (out.push ((data[offset]?).getD 0))

/-- Put bytes in the place of as many others, starting at an offset. -/
def overwrite (bytes : Bytes) (offset : Nat) (fresh : Bytes) : Bytes :=
  bytes.take offset ++ fresh ++ bytes.drop (offset + fresh.length)

/-- The bytes of a text in UTF-8. -/
def ofText (text : String) : Bytes := text.toByteArray.data.toList

/-- The text that the bytes spell, when they are UTF-8. -/
def toText? (bytes : Bytes) : Option String := String.fromUTF8? ⟨bytes.toArray⟩

/-- The text up to the first zero byte, and what follows that byte. -/
def terminated? (bytes : Bytes) : Option (String × Bytes) :=
  match bytes.dropWhile (· ≠ 0) with
  | [] => none
  | _ :: rest => (toText? (bytes.takeWhile (· ≠ 0))).map (·, rest)

end Bytes

end CommandLink
