/-!
# Double precision numbers, by their bits

A double is kept as the 64 bits of its IEEE form, so that every value, the
payload of a NaN included, is carried unchanged. What the connection asks of
one is exact: whether it is zero, which integer it is or truncates to, and
which double lies nearest to an integer.
-/

namespace CommandLink

/-- The bits of a double. -/
abbrev Binary64 := UInt64

namespace Binary64

/-- The weight of the sign bit. -/
def signUnit : Nat := 0x8000000000000000

/-- The weight of the lowest bit of the exponent. -/
def exponentUnit : Nat := 0x10000000000000

/-- The bits without the sign. -/
def magnitude (bits : Binary64) : Nat := bits.toNat % signUnit

/-- Whether the sign bit is set. -/
def isNegative (bits : Binary64) : Bool := signUnit ≤ bits.toNat

/-- The exponent field. -/
def exponent (bits : Binary64) : Nat := bits.magnitude / exponentUnit

/-- The fraction field. -/
def fraction (bits : Binary64) : Nat := bits.magnitude % exponentUnit

/-- Neither zero is different from zero; everything else is, NaN too. -/
def isZero (bits : Binary64) : Bool := bits.magnitude = 0

/-- Infinities and NaNs are not finite. -/
def isFinite (bits : Binary64) : Bool := bits.exponent < 2047

/-- A NaN has the highest exponent and a fraction. -/
def isNaN (bits : Binary64) : Bool := bits.exponent = 2047 ∧ bits.fraction ≠ 0

/-- The significand as an integer, at the scale `2 ^ (max exponent 1 - 1075)`. -/
def significand (bits : Binary64) : Nat :=
  if bits.exponent = 0 then bits.fraction else exponentUnit + bits.fraction

/-- Put a sign on a magnitude. -/
def signed (bits : Binary64) (n : Nat) : Int :=
  if bits.isNegative then -(n : Int) else n

/-- A finite double cut off toward zero. -/
def truncated (bits : Binary64) : Int :=
  let scale := max bits.exponent 1
  bits.signed <|
    if 1075 ≤ scale then bits.significand <<< (scale - 1075)
    else bits.significand >>> (1075 - scale)

/-- The integer that a double is, if it is one. -/
def toInt? (bits : Binary64) : Option Int :=
  let scale := max bits.exponent 1
  if !bits.isFinite then none
  else if 1075 ≤ scale ∨ bits.significand % (1 <<< (1075 - scale)) = 0 then some bits.truncated
  else none

/-- The nearest 64-bit integer toward zero: values out of range stop at the
ends of the range and a NaN counts as zero. -/
def toInt64 (bits : Binary64) : Int64 :=
  if bits.isNaN then 0
  else if !bits.isFinite then (if bits.isNegative then Int64.minValue else Int64.maxValue)
  else Int64.ofInt (max Int64.minValue.toInt (min Int64.maxValue.toInt bits.truncated))

/-- The magnitude bits of the double nearest to a number, a tie going to the
even neighbour. -/
def nearestMagnitude (n : Nat) : Nat :=
  if n = 0 then 0
  else
    let top := n.log2
    if top ≤ 52 then (top + 1022) * exponentUnit + n <<< (52 - top)
    else
      let unit := 1 <<< (top - 52)
      let low := n / unit
      let rest := n % unit
      let up := unit < 2 * rest ∨ (unit = 2 * rest ∧ low % 2 = 1)
      (top + 1022) * exponentUnit + (if up then low + 1 else low)

/-- The double nearest to an integer. -/
def ofInt (value : Int) : Binary64 :=
  UInt64.ofNat (nearestMagnitude value.natAbs + if value < 0 then signUnit else 0)

end Binary64

end CommandLink
