import CommandLink.Bson.Extended
import CommandLink.Error

/-!
# Documents from plain data

A program's own data becomes a document: numbers keep or widen their size,
sequences become arrays and maps documents. A map whose entries spell a value
becomes that value. Only a map can be a whole document.
-/

namespace CommandLink

/-- Plain data. -/
inductive Serial where
  | int32 (value : Int32)
  | int64 (value : Int64)
  | word32 (value : UInt32)
  | word64 (value : UInt64)
  | double (bits : Binary64)
  | boolean (value : Bool)
  | text (value : String)
  | null
  | sequence (items : List Serial)
  | map (entries : List (String × Serial))
  deriving Inhabited

namespace Serial

mutual

/-- The value that plain data becomes. An unsigned number beyond the signed
range has none. -/
def toBson? : Serial → Option Bson
  | int32 value => some (.int32 value)
  | int64 value => some (.int64 value)
  | word32 value => some (.int64 (Int64.ofNat value.toNat))
  | word64 value => if 0 ≤ value.toInt64 then some (.int64 value.toInt64) else none
  | double bits => some (.double bits)
  | boolean value => some (.boolean value)
  | text value => some (.string value)
  | null => some .null
  | sequence items => (itemsToBson? items).map Bson.array
  | map entries => (entriesToBson? [] entries).map Bson.ofSpelling

/-- The values of a sequence. -/
def itemsToBson? : List Serial → Option (List Bson)
  | [] => some []
  | item :: rest =>
    (toBson? item).bind fun value => (itemsToBson? rest).map fun values => value :: values

/-- The entries of a map, put into those before. -/
def entriesToBson? (soFar : Document) : List (String × Serial) → Option Document
  | [] => some soFar
  | (name, entry) :: rest =>
    (toBson? entry).bind fun value => entriesToBson? (soFar.insert name value) rest

end

/-- The document that plain data becomes. -/
def toDocument (data : Serial) : Except LinkError Document :=
  match (toBson? data).bind Bson.document? with
  | some document => .ok document
  | none => .error (.encode .unwritableValue)

end Serial

end CommandLink
