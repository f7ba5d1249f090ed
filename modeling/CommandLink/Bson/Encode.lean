import CommandLink.Bson.Value

/-!
# Writing documents

A document is written as its length, its entries and a zero byte. A name and
both parts of a regular expression end at their first zero byte, so one that
holds a zero byte cannot be written; a string carries its length and can.
-/

namespace CommandLink

namespace Bson

/-- The byte that says what kind of value follows. -/
def tag : Bson → UInt8
  | .double _ => 0x01
  | .string _ => 0x02
  | .document _ => 0x03
  | .array _ => 0x04
  | .binary _ _ => 0x05
  | .undefined => 0x06
  | .objectId _ => 0x07
  | .boolean _ => 0x08
  | .dateTime _ => 0x09
  | .null => 0x0A
  | .regex _ _ => 0x0B
  | .dbPointer _ _ => 0x0C
  | .javaScript _ => 0x0D
  | .symbol _ => 0x0E
  | .javaScriptWithScope _ _ => 0x0F
  | .int32 _ => 0x10
  | .timestamp _ _ => 0x11
  | .int64 _ => 0x12
  | .decimal128 _ => 0x13
  | .minKey => 0xFF
  | .maxKey => 0x7F

/-- A text that ends at its zero byte. -/
def terminated? (text : String) : Option Bytes :=
  let bytes := Bytes.ofText text
  if 0 ∈ bytes then none else some (bytes ++ [0])

/-- A text with its length in front, the closing zero byte counted. -/
def counted (text : String) : Bytes :=
  let bytes := Bytes.ofText text
  Bytes.ofNat 4 (bytes.length + 1) ++ bytes ++ [0]

/-- Entries closed off as a document. -/
def framed (entries : Bytes) : Bytes :=
  Bytes.ofNat 4 (entries.length + 5) ++ entries ++ [0]

mutual

/-- What follows the name of a value. -/
def payload? : Bson → Option Bytes
  | .double bits => some (Bytes.ofUInt64 bits)
  | .string text => some (counted text)
  | .document entries => (entries? entries).map framed
  | .array values => (items? 0 values).map framed
  | .binary subtype bytes => some (Bytes.ofNat 4 bytes.length ++ subtype :: bytes)
  | .undefined => some []
  | .objectId bytes => some bytes
  | .boolean value => some [if value then 1 else 0]
  | .dateTime millis => some (Bytes.ofUInt64 millis.toUInt64)
  | .null => some []
  | .regex pattern options =>
    (terminated? pattern).bind fun p => (terminated? options).map fun o => p ++ o
  | .dbPointer collection id => some (counted collection ++ id)
  | .javaScript code => some (counted code)
  | .symbol text => some (counted text)
  | .javaScriptWithScope code scope =>
    (entries? scope).map fun inner =>
      let body := counted code ++ framed inner
      Bytes.ofNat 4 (body.length + 4) ++ body
  | .int32 value => some (Bytes.ofInt32 value)
  | .timestamp time increment => some (Bytes.ofUInt32 increment ++ Bytes.ofUInt32 time)
  | .int64 value => some (Bytes.ofUInt64 value.toUInt64)
  | .decimal128 bytes => some bytes
  | .minKey => some []
  | .maxKey => some []

/-- The entries of a document, one after the other. -/
def entries? : List (String × Bson) → Option Bytes
  | [] => some []
  | (name, value) :: rest =>
    (terminated? name).bind fun n =>
      (payload? value).bind fun p =>
        (entries? rest).map fun r => value.tag :: (n ++ (p ++ r))

/-- The items of an array, named by their places. -/
def items? (place : Nat) : List Bson → Option Bytes
  | [] => some []
  | value :: rest =>
    (payload? value).bind fun p =>
      (items? (place + 1) rest).map fun r =>
        value.tag :: (Bytes.ofText (toString place) ++ 0 :: (p ++ r))

end

end Bson

/-- The bytes of a document, unless a name in it cannot be written. -/
def Document.encode? (document : Document) : Option Bytes :=
  (Bson.entries? document).map Bson.framed

end CommandLink
