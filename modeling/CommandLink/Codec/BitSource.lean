/-!
# Reading bits

Bits come out of a byte from its lowest to its highest. A source is a position
in fixed data; past the end there are no bits.
-/

namespace CommandLink

/-- A position, in bits, within data. -/
structure BitSource where
  data : ByteArray
  position : Nat

namespace BitSource

/-- How many bits lie ahead. -/
def remaining (source : BitSource) : Nat := 8 * source.data.size - source.position

/-- The next bit. -/
def bit? (source : BitSource) : Option (Bool × BitSource) :=
  match source.data[source.position / 8]? with
  | none => none
  | some byte =>
    some (byte.toNat.testBit (source.position % 8), { source with position := source.position + 1 })

/-- The next bits as a number, the first bit lowest. -/
def bits? (source : BitSource) : (count : Nat) → Option (Nat × BitSource)
  | 0 => some (0, source)
  | count + 1 =>
    match source.bit? with
    | none => none
    | some (bit, next) =>
      match next.bits? count with
      | none => none
      | some (high, rest) => some (2 * high + bit.toNat, rest)

/-- Skip to the next whole byte. -/
def align (source : BitSource) : BitSource :=
  { source with position := (source.position + 7) / 8 * 8 }

end BitSource

end CommandLink
