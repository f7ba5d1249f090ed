/-!
# Decimal numbers

Reading a number that must fit a bound. A plus sign may stand in front and
leading zeros count for nothing; a minus sign, a blank or an empty text is no
number.
-/

namespace CommandLink.Text

/-- The value of a digit. -/
def digit? (c : Char) : Option Nat :=
  if '0' ≤ c ∧ c ≤ '9' then some (c.toNat - '0'.toNat) else none

/-- The value of a run of digits that continues a number read so far. -/
def digits? (value : Nat) : List Char → Option Nat
  | [] => some value
  | c :: rest => (digit? c).bind fun d => digits? (10 * value + d) rest

/-- The number that the characters write, when it is below the bound. -/
def decimalBelow? (bound : Nat) (chars : List Char) : Option Nat :=
  let unsigned := match chars with
    | '+' :: rest => rest
    | _ => chars
  if unsigned = [] then none else (digits? 0 unsigned).filter (· < bound)

/-- The signed number that the characters write, when it lies in a range with
both ends. -/
def integerIn? (low high : Int) (chars : List Char) : Option Int :=
  let value : Option Int := match chars with
    | '-' :: rest => if rest = [] then none else (digits? 0 rest).map fun n => -(n : Int)
    | '+' :: rest => if rest = [] then none else (digits? 0 rest).map Int.ofNat
    | _ => if chars = [] then none else (digits? 0 chars).map Int.ofNat
  value.filter fun n => low ≤ n && n ≤ high

end CommandLink.Text
