import CommandLink.Bytes
import CommandLink.Text.Decimal

/-!
# Decimal numbers of 128 bits

Reading a number of up to 34 digits and a power of ten, or the name of an
infinity or of no number, in the form in which a document carries it: the sign,
the exponent and the digits as one integer. A number is never rounded. One with
too many digits, or with an exponent out of range, can be read if the digits
that have to go are zeros or there is room for the zeros that have to come.
-/

namespace CommandLink.Text

/-- How many digits there is room for. -/
def decimalDigits : Nat := 34

/-- The least exponent. -/
def leastExponent : Int := -6176

/-- The greatest exponent. -/
def greatestExponent : Int := 6111

/-- Whether a 16-bit signed number can hold an exponent, as it must on the way. -/
def isShort (exponent : Int) : Bool := -32768 ≤ exponent && exponent ≤ 32767

/-- The digits at the front, if those behind are zeros. -/
def cut? (count : Nat) (digits : List Char) : Option (List Char) :=
  if (digits.drop count).all (· = '0') then some (digits.take count) else none

/-- Split a text at a character, which goes to neither side. -/
def splitAtChar (c : Char) (chars : List Char) : List Char × Option (List Char) :=
  match chars.span (· ≠ c) with
  | (front, []) => (front, none)
  | (front, _ :: back) => (front, some back)

/-- The digits without leading zeros and the exponent that a text writes. -/
def scientific? (chars : List Char) : Option (List Char × Int) := do
  let (mantissa, power) := splitAtChar 'e' chars
  let power ← match power with
    | none => some 0
    | some digits => integerIn? (-32768) 32767 digits
  let (whole, fraction) := splitAtChar '.' mantissa
  let fraction := fraction.getD []
  let exponent := power - fraction.length
  guard (isShort fraction.length ∧ isShort exponent)
  let digits := (whole ++ fraction).dropWhile (· = '0')
  return (if digits = [] then ['0'] else digits, exponent)

/-- Bring digits and exponent into their ranges. -/
def fitted? (digits : List Char) (exponent : Int) : Option (List Char × Int) := do
  let shorter ← if decimalDigits < digits.length then cut? decimalDigits digits else some digits
  let exponent := exponent + (digits.length - shorter.length : Nat)
  guard (isShort exponent)
  if exponent < leastExponent then
    if shorter = ['0'] then return (shorter, leastExponent)
    let excess := (leastExponent - exponent).toNat
    guard (excess ≤ shorter.length)
    return (← cut? (shorter.length - excess) shorter, leastExponent)
  else if greatestExponent < exponent then
    if shorter = ['0'] then return (shorter, greatestExponent)
    let missing := (exponent - greatestExponent).toNat
    guard (shorter.length + missing ≤ decimalDigits)
    return (shorter ++ List.replicate missing '0', greatestExponent)
  else
    return (shorter, exponent)

/-- The lower and the upper half of a number without its sign. -/
def unsignedDecimal128? (chars : List Char) : Option (Nat × Nat) :=
  let word := String.ofList (chars.map Char.toLower)
  if word = "nan" then some (0, 0x7C00000000000000)
  else if word = "snan" then some (0, 0x7E00000000000000)
  else if word = "infinity" ∨ word = "inf" then some (0, 0x7800000000000000)
  else do
    let (digits, exponent) ← scientific? word.toList
    let (digits, exponent) ← fitted? digits exponent
    let number ← decimalBelow? (Nat.pow 10 decimalDigits) digits
    return (number % 0x10000000000000000,
      (exponent - leastExponent).toNat * 0x2000000000000 + number / 0x10000000000000000)

/-- The bytes of the number that a text writes. -/
def decimal128? (text : String) : Option Bytes := do
  let (negative, chars) := match text.toList with
    | '-' :: rest => (true, rest)
    | '+' :: rest => (false, rest)
    | chars => (false, chars)
  let (low, high) ← unsignedDecimal128? chars
  return Bytes.ofNat 8 low ++ Bytes.ofNat 8 (high + if negative then 0x8000000000000000 else 0)

end CommandLink.Text
