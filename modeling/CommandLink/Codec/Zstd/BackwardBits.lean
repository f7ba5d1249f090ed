/-!
# Bits from the end

Entropy-coded data is read from its last bit to its first. The highest bit set
in the last byte only marks the end and belongs to no value.
-/

namespace CommandLink.Zstd

/-- Data of which the lowest `left` bits have not been read. -/
structure BackwardBits where
  data : ByteArray
  left : Nat

namespace BackwardBits

/-- Stand below the end mark, if there is one. -/
def start? (data : ByteArray) : Option BackwardBits :=
  match data[data.size - 1]? with
  | none => none
  | some last =>
    if last = 0 then none else some ⟨data, 8 * (data.size - 1) + last.toNat.log2⟩

/-- Bytes from an offset on as a number, lowest first. -/
def number (data : ByteArray) (offset : Nat) : (count : Nat) → Nat
  | 0 => 0
  | count + 1 => ((data[offset]?).getD 0).toNat + 256 * number data (offset + 1) count

/-- The bits from a position on as a number. -/
def slice (data : ByteArray) (position count : Nat) : Nat :=
  (number data (position / 8) ((position % 8 + count + 7) / 8) >>> (position % 8)) % (1 <<< count)

/-- Read a number of so many bits. -/
def read? (bits : BackwardBits) (count : Nat) : Option (Nat × BackwardBits) :=
  if count ≤ bits.left then
    some (slice bits.data (bits.left - count) count, { bits with left := bits.left - count })
  else
    none

/-- The next bits without reading them, filled up with zeros past the first bit
of the data. -/
def peek (bits : BackwardBits) (count : Nat) : Nat :=
  if count ≤ bits.left then slice bits.data (bits.left - count) count
  else slice bits.data 0 bits.left <<< (count - bits.left)

/-- Leave bits out. -/
def skip? (bits : BackwardBits) (count : Nat) : Option BackwardBits :=
  if count ≤ bits.left then some { bits with left := bits.left - count } else none

end BackwardBits

end CommandLink.Zstd
