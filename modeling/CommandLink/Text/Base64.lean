import CommandLink.Bytes

/-!
# Base 64

Reading bytes written in base 64: four letters of six bits for three bytes. The
last four are filled up with equals signs where bytes are missing, and the bits
that belong to no byte are zero.
-/

namespace CommandLink.Text

/-- The value of a letter. -/
def sextet? (c : Char) : Option Nat :=
  if 'A' ≤ c ∧ c ≤ 'Z' then some (c.toNat - 'A'.toNat)
  else if 'a' ≤ c ∧ c ≤ 'z' then some (c.toNat - 'a'.toNat + 26)
  else if '0' ≤ c ∧ c ≤ '9' then some (c.toNat - '0'.toNat + 52)
  else if c = '+' then some 62
  else if c = '/' then some 63
  else none

/-- The bytes that the letters write. -/
def base64? : List Char → Option Bytes
  | [] => some []
  | [a, b, '=', '='] => do
    let first ← sextet? a
    let second ← sextet? b
    guard (second % 16 = 0)
    return [UInt8.ofNat (4 * first + second / 16)]
  | [a, b, c, '='] => do
    let first ← sextet? a
    let second ← sextet? b
    let third ← sextet? c
    guard (third % 4 = 0)
    return [UInt8.ofNat (4 * first + second / 16), UInt8.ofNat (16 * second + third / 4)]
  | a :: b :: c :: d :: rest => do
    let first ← sextet? a
    let second ← sextet? b
    let third ← sextet? c
    let fourth ← sextet? d
    return UInt8.ofNat (4 * first + second / 16) :: UInt8.ofNat (16 * second + third / 4) ::
      UInt8.ofNat (64 * third + fourth) :: (← base64? rest)
  | _ => none

end CommandLink.Text
