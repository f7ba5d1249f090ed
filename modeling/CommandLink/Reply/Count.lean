import CommandLink.Bson.Decode
import CommandLink.Error

/-!
# Counting replies

The reply of a counting command, read into a record: whether it is `ok`, as a
double, and `n`, as a 32-bit integer. Both have to be there and neither twice;
everything else in the reply is ignored, but has to be readable.
-/

namespace CommandLink

/-- The record that a counting command replies. -/
structure Count where
  ok : Binary64
  n : Int32
  deriving DecidableEq, Repr

namespace Count

/-- A number as a double. -/
def ok? : Bson → Option Binary64
  | .double bits => some bits
  | .int32 value => some (Binary64.ofInt value.toInt)
  | .int64 value => some (Binary64.ofInt value.toInt)
  | _ => none

/-- An integer of at most 32 bits. -/
def n? : Bson → Option Int32
  | .int32 value => some value
  | .int64 value =>
    if Int32.minValue.toInt ≤ value.toInt ∧ value.toInt ≤ Int32.maxValue.toInt then
      some (Int32.ofInt value.toInt)
    else none
  | _ => none

/-- The fields met so far. -/
structure Fields where
  ok : Option Binary64
  n : Option Int32

/-- Read the elements into the fields. -/
def collect (depth : Nat) (fields : Fields) : List RawElement → Option Fields
  | [] => some fields
  | element :: rest =>
    if element.key = "ok" then
      if fields.ok.isSome then none
      else (element.leaf?.bind ok?).bind fun ok => collect depth { fields with ok := some ok } rest
    else if element.key = "n" then
      if fields.n.isSome then none
      else (element.leaf?.bind n?).bind fun n => collect depth { fields with n := some n } rest
    else if element.isReadable depth then collect depth fields rest
    else none

/-- The record in a reply, if there is one. -/
def ofReply? (raw : RawDocument) : Option Count :=
  if raw.elements.whole then
    (collect raw.bytes.length ⟨none, none⟩ raw.elements.readable).bind fun fields =>
      fields.ok.bind fun ok => fields.n.map fun n => ⟨ok, n⟩
  else
    none

/-- The record in a reply. -/
def ofReply (raw : RawDocument) : Except LinkError Count :=
  match ofReply? raw with
  | some count => .ok count
  | none => .error (.decode (.notOfType "Count"))

end Count

end CommandLink
