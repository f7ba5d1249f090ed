import CommandLink.Number.Binary64
import CommandLink.Text.Decimal

/-!
# Numbers with a point or an exponent

Reading a double from its decimal text: a sign, digits with or without a
point, an exponent, or the name of an infinity or of no number.
-/

namespace CommandLink.Text

/-- The digits at the front, as characters, and what follows. -/
def spanDigits (chars : List Char) : List Char × List Char :=
  chars.span fun c => (digit? c).isSome

/-- An exponent, or nothing at all. -/
def exponent? : List Char → Option Int
  | [] => some 0
  | e :: rest =>
    if e ≠ 'e' ∧ e ≠ 'E' then none
    else match rest with
      | '-' :: digits => if digits = [] then none else (digits? 0 digits).map fun n => -(n : Int)
      | '+' :: digits => if digits = [] then none else (digits? 0 digits).map Int.ofNat
      | digits => if digits = [] then none else (digits? 0 digits).map Int.ofNat

/-- The double nearest to `digits * 10 ^ exponent`. Exponents past the range
of a double give zero or infinity without being computed. -/
def nearestBinary64 (digits : Nat) (exponent : Int) : Binary64 :=
  let size := (Nat.toDigits 10 digits).length + exponent
  if digits = 0 ∨ size < -400 then 0
  else if 400 < size then 0x7FF0000000000000
  else (Float.ofScientific digits (exponent < 0) exponent.natAbs).toBits

/-- A number without its sign. -/
def unsignedBinary64? (chars : List Char) : Option Binary64 :=
  let word := String.ofList (chars.map Char.toLower)
  if word = "inf" ∨ word = "infinity" then some 0x7FF0000000000000
  else if word = "nan" then some 0x7FF8000000000000
  else
    let (whole, afterWhole) := spanDigits chars
    let (fraction, rest) := match afterWhole with
      | '.' :: more => spanDigits more
      | _ => ([], afterWhole)
    if whole = [] ∧ fraction = [] then none
    else
      (digits? 0 (whole ++ fraction)).bind fun digits =>
        (exponent? rest).map fun exponent =>
          nearestBinary64 digits (exponent - fraction.length)

/-- The double that a text writes. -/
def binary64? (text : String) : Option Binary64 :=
  match text.toList with
  | '-' :: rest => (unsignedBinary64? rest).map (· ||| 0x8000000000000000)
  | '+' :: rest => unsignedBinary64? rest
  | chars => unsignedBinary64? chars

end CommandLink.Text
