import CommandLink.Bson.Element
import CommandLink.Bson.Value

/-!
# Reading single values

A value that holds no document is read by its kind. Of one that holds some,
the parts are split off.
-/

namespace CommandLink

namespace RawElement

/-- The text of a value with its length in front. -/
def countedText? (value : Bytes) : Option String :=
  Bytes.toText? ((value.drop 4).take (value.toInt32.toInt.toNat - 1))

/-- Options are kept in the order of their letters. -/
def sortedOptions (options : String) : String :=
  String.ofList (options.toList.mergeSort (· ≤ ·))

/-- An old-style binary repeats its length inside. -/
def binary? (subtype : UInt8) (bytes : Bytes) : Option Bson :=
  if subtype = 2 ∧ ¬ (bytes.holds 4 ∧ bytes.toInt32.toInt + 4 = bytes.length) then none
  else some (.binary subtype bytes)

/-- Read a value that holds no document. -/
def leaf? (element : RawElement) : Option Bson :=
  let value := element.value
  match element.tag with
  | 0x01 => some (.double value.toUInt64)
  | 0x02 => (countedText? value).map Bson.string
  | 0x05 => binary? (value.getD 4 0) (value.drop 5)
  | 0x06 => some .undefined
  | 0x07 => some (.objectId value)
  | 0x08 => match value with
    | [0] => some (.boolean false)
    | [1] => some (.boolean true)
    | _ => none
  | 0x09 => some (.dateTime value.toUInt64.toInt64)
  | 0x0A => some .null
  | 0x0B =>
    (Bytes.terminated? value).bind fun (pattern, rest) =>
      (Bytes.terminated? rest).map fun (options, _) => .regex pattern (sortedOptions options)
  | 0x0C =>
    (countedText? value).map fun collection =>
      .dbPointer collection (value.drop (value.length - 12))
  | 0x0D => (countedText? value).map Bson.javaScript
  | 0x0E => (countedText? value).map Bson.symbol
  | 0x10 => some (.int32 value.toInt32)
  | 0x11 => some (.timestamp (Bytes.toUInt32 (value.drop 4)) value.toUInt32)
  | 0x12 => some (.int64 value.toUInt64.toInt64)
  | 0x13 => some (.decimal128 value)
  | 0xFF => some .minKey
  | 0x7F => some .maxKey
  | _ => none

/-- Split code with a scope into the two. -/
def codeWithScope? (value : Bytes) : Option (String × RawDocument) :=
  if value.holds 14 then
    let body := value.drop 4
    (countedExtent? body).bind fun n =>
      (countedText? body).bind fun code =>
        (RawDocument.ofBytes? (body.drop n)).map fun scope => (code, scope)
  else
    none

/-- The elements of a value that is a document or an array. -/
def nested (value : Bytes) : Elements :=
  .walk value.length (value.drop 4)

end RawElement

end CommandLink
