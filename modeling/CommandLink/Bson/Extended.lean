import CommandLink.Bson.Leaf
import CommandLink.Number.Decimal128
import CommandLink.Number.Scientific
import CommandLink.Text.Base64
import CommandLink.Text.Instant

/-!
# Values spelled as documents

Some values have a second spelling, as a sub-document under a reserved name:
a long integer may be written as `$numberLong` with its digits as a string.
Read from bytes, a sub-document takes this meaning as soon as a reserved name
is met, and the rest of it no longer counts. Built in memory, only a
sub-document that holds the reserved names and nothing else does.
-/

namespace CommandLink

namespace Bson

/-- The value of a hexadecimal digit. -/
def hexDigit? (c : Char) : Option Nat :=
  if '0' ≤ c ∧ c ≤ '9' then some (c.toNat - '0'.toNat)
  else if 'a' ≤ c ∧ c ≤ 'f' then some (c.toNat - 'a'.toNat + 10)
  else if 'A' ≤ c ∧ c ≤ 'F' then some (c.toNat - 'A'.toNat + 10)
  else none

/-- Two digits a byte. -/
def hexBytes? : List Char → Option Bytes
  | [] => some []
  | high :: low :: rest =>
    (hexDigit? high).bind fun h =>
      (hexDigit? low).bind fun l =>
        (hexBytes? rest).map fun bytes => UInt8.ofNat (16 * h + l) :: bytes
  | [_] => none

/-- A given number of bytes in hexadecimal. -/
def hexOf? (count : Nat) (chars : List Char) : Option Bytes :=
  if chars.length = 2 * count then hexBytes? chars else none

/-- The bytes of a universal identifier, whose digits stand by themselves or in
five groups. The groups may be in braces or behind a prefix. -/
def uuid? (text : String) : Option Bytes :=
  let chars := text.toList
  let grouped :=
    if chars.length = 38 ∧ chars.head? = some '\x7b' ∧ chars.getLast? = some '\x7d' then
      (chars.drop 1).dropLast
    else if chars.length = 45 ∧ chars.take 9 = "urn:uuid:".toList then chars.drop 9
    else chars
  if chars.length = 32 then hexOf? 16 chars
  else if grouped.length = 36 ∧ [8, 13, 18, 23].all (fun place => grouped[place]? = some '-') then
    hexOf? 16 (grouped.filter (· ≠ '-'))
  else none

/-- The value of a long integer in its digits. -/
def long? (text : String) : Option Int64 :=
  (Text.integerIn? Int64.minValue.toInt Int64.maxValue.toInt text.toList).map Int64.ofInt

/-- Binary data as a document carries it: an old-style one has its length
repeated inside. -/
def ofBinary (subtype : UInt8) (bytes : Bytes) : Bson :=
  .binary subtype (if subtype = 2 then Bytes.ofNat 4 bytes.length ++ bytes else bytes)

/-- Subtype and bytes of binary data in base 64, the subtype in hexadecimal. -/
def binaryOf? (base64 subtype : String) : Option (UInt8 × Bytes) := do
  let bytes ← Text.base64? base64.toList
  let [subtype] ← hexBytes? subtype.toList | none
  return (subtype, bytes)

end Bson

/-! ## Bodies of spelled values, in bytes -/

namespace RawElement

/-- The text of a string, or of binary data of no particular kind. -/
def plainText? (element : RawElement) : Option String :=
  match element.leaf? with
  | some (.string text) => some text
  | some (.binary 0 bytes) => bytes.toText?
  | _ => none

/-- An integer of either size, below a bound and not negative. -/
def naturalBelow? (bound : Nat) (element : RawElement) : Option Nat :=
  let value : Option Int := match element.leaf? with
    | some (.int32 n) => some n.toInt
    | some (.int64 n) => some n.toInt
    | _ => none
  (value.filter fun n => decide (0 ≤ n ∧ n < (bound : Int))).map Int.toNat

/-- The fields of a value: those of a document have the given names, each of
them once, and those of an array have the places of the names. -/
def fields? (names : List String) (element : RawElement) : Option (List RawElement) :=
  let entries := nested element.value
  match element.tag with
  | 0x03 =>
    if entries.whole ∧ entries.readable.length = names.length then
      names.mapM fun name => entries.readable.find? (·.key = name)
    else none
  | 0x04 =>
    if names.length ≤ entries.readable.length then some (entries.readable.take names.length)
    else none
  | _ => none

/-- Two texts in a value's fields. -/
def twoTexts? (first second : String) (element : RawElement) : Option (String × String) := do
  let [one, other] ← element.fields? [first, second] | none
  return (← one.plainText?, ← other.plainText?)

/-- Two numbers of 32 bits in a value's fields. -/
def twoWords? (first second : String) (element : RawElement) : Option (UInt32 × UInt32) := do
  let [one, other] ← element.fields? [first, second] | none
  return (UInt32.ofNat (← one.naturalBelow? UInt32.size),
    UInt32.ofNat (← other.naturalBelow? UInt32.size))

/-- The bytes of an object identifier, as they stand or in hexadecimal. -/
def identifierBytes? (element : RawElement) : Option Bytes :=
  match element.leaf? with
  | some (.string text) => Bson.hexOf? 12 text.toList
  | some (.binary 0 bytes) => if bytes.length = 12 then some bytes else none
  | _ => none

/-- An object identifier as it stands, or in hexadecimal in a field. -/
def identifier? (element : RawElement) : Option Bytes :=
  match element.leaf? with
  | some (.objectId bytes) => some bytes
  | _ => do
    let [field] ← element.fields? ["$oid"] | none
    Bson.hexOf? 12 (← field.plainText?).toList

/-- A collection and an object identifier in a value's fields. -/
def pointer? (element : RawElement) : Option (String × Bytes) := do
  let [collection, id] ← element.fields? ["$ref", "$id"] | none
  return (← collection.plainText?, ← id.identifier?)

/-- A point in time in its text, or its milliseconds in an only field. -/
def moment? (element : RawElement) : Option Int64 :=
  match element.plainText? with
  | some text => Text.instant? text
  | none => do
    let entries := nested element.value
    guard (entries.whole ∧ entries.readable.length = 1)
    let [field] ← element.fields? ["$numberLong"] | none
    Bson.long? (← field.plainText?)

/-- Bytes as they stand, as a text or as an array of numbers. -/
def octets? (element : RawElement) : Option Bytes :=
  match element.leaf? with
  | some (.string text) => some (Bytes.ofText text)
  | some (.binary 0 bytes) => some bytes
  | _ => do
    let entries := nested element.value
    guard (element.tag = 0x04 ∧ entries.whole)
    entries.readable.mapM fun item => (item.naturalBelow? UInt8.size).map UInt8.ofNat

end RawElement

namespace Bson

/-- The reserved names, apart from the pair that spells code. -/
inductive Spelling where
  | objectId
  | symbol
  | int32
  | int64
  | double
  | binary
  | uuid
  | timestamp
  | regex
  | dbPointer
  | date
  | maxKey
  | minKey
  | undefined
  | decimal
  | decimalBytes

namespace Spelling

/-- The reserved names and what is spelled under them. -/
def names : List (String × Spelling) :=
  [("$oid", objectId), ("$symbol", symbol), ("$numberInt", int32), ("$numberLong", int64),
    ("$numberDouble", double), ("$binary", binary), ("$uuid", uuid), ("$timestamp", timestamp),
    ("$regularExpression", regex), ("$dbPointer", dbPointer), ("$date", date), ("$maxKey", maxKey),
    ("$minKey", minKey), ("$undefined", undefined), ("$numberDecimal", decimal),
    ("$numberDecimalBytes", decimalBytes)]

/-- The reserved name, if it is one. -/
def ofKey? (key : String) : Option Spelling :=
  (names.find? (·.1 = key)).map (·.2)

/-- The value that a string spells. -/
def value? (spelling : Spelling) (text : String) : Option Bson :=
  match spelling with
  | objectId => (hexOf? 12 text.toList).map Bson.objectId
  | symbol => some (.symbol text)
  | int32 =>
    (Text.integerIn? Int32.minValue.toInt Int32.maxValue.toInt text.toList).map fun n =>
      .int32 (Int32.ofInt n)
  | int64 => (long? text).map Bson.int64
  | double => (Text.binary64? text).map Bson.double
  | uuid => (uuid? text).map (Bson.binary 4)
  | date => (Text.instant? text).map Bson.dateTime
  | decimal => (Text.decimal128? text).map Bson.decimal128
  | _ => none

/-- The value that is spelled in bytes. -/
def read? (spelling : Spelling) (element : RawElement) : Option Bson :=
  match spelling with
  | objectId => element.identifierBytes?.map Bson.objectId
  | binary =>
    ((element.twoTexts? "base64" "subType").bind fun (base64, subtype) =>
      binaryOf? base64 subtype).map fun (subtype, bytes) => ofBinary subtype bytes
  | timestamp => (element.twoWords? "t" "i").map fun (time, increment) => .timestamp time increment
  | regex =>
    (element.twoTexts? "pattern" "options").map fun (pattern, options) =>
      .regex pattern (RawElement.sortedOptions options)
  | dbPointer => element.pointer?.map fun (collection, id) => .dbPointer collection id
  | date => element.moment?.map Bson.dateTime
  | maxKey => if element.naturalBelow? UInt8.size = some 1 then some .maxKey else none
  | minKey => if element.naturalBelow? UInt8.size = some 1 then some .minKey else none
  | undefined => if element.leaf?.bind boolean? = some true then some .undefined else none
  | decimalBytes => (element.octets?.filter (·.length = 16)).map Bson.decimal128
  | _ => element.plainText?.bind spelling.value?

/-- Two texts among the entries of a body in memory. -/
def twoTexts? (first second : String) (body : Document) : Option (String × String) := do
  return (← (← body.get? first).text?, ← (← body.get? second).text?)

/-- Subtype and bytes of a body in memory, which gives both as they are if it
does not give base 64. -/
def binaryIn? (body : Document) : Option (UInt8 × Bytes) :=
  match body.get? "base64", body.get? "bytes", body.get? "subType" with
  | some (.string base64), _, some (.string subtype) => binaryOf? base64 subtype
  | some (.string _), _, _ => none
  | _, some (.binary 0 bytes), some (.int32 subtype) =>
    if 0 ≤ subtype ∧ subtype < 256 then some (UInt8.ofNat subtype.toInt.toNat, bytes) else none
  | _, _, _ => none

/-- The seconds and the counter in a body in memory, which are of one size. -/
def clockIn? (body : Document) : Option (UInt32 × UInt32) :=
  match body.get? "t", body.get? "i" with
  | some (.int32 time), some (.int32 increment) => some (time.toUInt32, increment.toUInt32)
  | some (.int64 time), some (.int64 increment) =>
    if 0 ≤ time ∧ time.toInt < UInt32.size ∧ 0 ≤ increment ∧ increment.toInt < UInt32.size then
      some (time.toUInt64.toUInt32, increment.toUInt64.toUInt32)
    else none
  | _, _ => none

/-- A collection and an object identifier in a body in memory. -/
def pointerIn? (body : Document) : Option (String × Bytes) :=
  match body.get? "$ref", body.get? "$id" with
  | some (.string collection), some (.objectId id) => some (collection, id)
  | _, _ => none

/-- The value that is spelled in memory. -/
def inMemory? (spelling : Spelling) (value : Bson) : Option Bson :=
  match spelling, value with
  | binary, .document body => (binaryIn? body).map fun (subtype, bytes) => ofBinary subtype bytes
  | timestamp, .document body =>
    (clockIn? body).map fun (time, increment) => .timestamp time increment
  | regex, .document body =>
    (twoTexts? "pattern" "options" body).map fun (pattern, options) =>
      .regex pattern (RawElement.sortedOptions options)
  | dbPointer, .document body =>
    (pointerIn? body).map fun (collection, id) => .dbPointer collection id
  | date, .int64 millis => some (.dateTime millis)
  | maxKey, .int32 n => if n = 1 then some .maxKey else none
  | maxKey, .int64 n => if n = 1 then some .maxKey else none
  | minKey, .int32 n => if n = 1 then some .minKey else none
  | minKey, .int64 n => if n = 1 then some .minKey else none
  | undefined, .boolean true => some .undefined
  | decimalBytes, .binary 0 bytes => if bytes.length = 16 then some (.decimal128 bytes) else none
  | uuid, _ => none
  | _, .string text => spelling.value? text
  | _, _ => none

end Spelling

/-- What a document built in memory stands for: the value it spells, if it
spells one, and itself otherwise. -/
def ofSpelling (entries : Document) : Bson :=
  let spelled : Option Bson := match entries with
    | [("$code", .string code)] => some (.javaScript code)
    | [(key, value)] => (Spelling.ofKey? key).bind fun spelling => spelling.inMemory? value
    | [("$code", .string code), ("$scope", .document scope)] =>
      some (.javaScriptWithScope code scope)
    | [("$scope", .document scope), ("$code", .string code)] =>
      some (.javaScriptWithScope code scope)
    | _ => none
  spelled.getD (.document entries)

end Bson

end CommandLink
