import CommandLink.Bytes

/-!
# Walking over a document

Before a document is decoded it is a run of bytes with a length in front and
a zero byte behind. Walking over it splits it into elements by the kind and
the length of each value and never looks inside a value. A walk stops at the
first element it cannot split off; the elements before it stay readable.
-/

namespace CommandLink

/-- A named value whose bytes have been found but not read. -/
structure RawElement where
  tag : UInt8
  key : String
  value : Bytes

/-- What a walk finds: the readable elements, and whether they are all there
is. -/
structure Elements where
  readable : List RawElement
  whole : Bool

namespace RawElement

/-- A length in front of a value: a signed number of at least `least`. -/
def lengthField? (least : Int) (bytes : Bytes) : Option Nat :=
  if bytes.holds 4 ∧ least ≤ bytes.toInt32.toInt then some bytes.toInt32.toInt.toNat else none

/-- How far a value of fixed size reaches. -/
def fixedExtent? (size : Nat) (bytes : Bytes) : Option Nat :=
  if bytes.holds size then some size else none

/-- How far a text with its length in front reaches. -/
def countedExtent? (bytes : Bytes) : Option Nat :=
  (lengthField? 1 bytes).bind fun n => if bytes[n + 3]? = some 0 then some (n + 4) else none

/-- How far a nested document reaches. -/
def framedExtent? (bytes : Bytes) : Option Nat :=
  (lengthField? 5 bytes).bind fun n => if bytes[n - 1]? = some 0 then some n else none

/-- How far a value of a given kind reaches into the bytes after its name. -/
def extent? (tag : UInt8) (bytes : Bytes) : Option Nat :=
  match tag with
  | 0x01 => fixedExtent? 8 bytes
  | 0x02 => countedExtent? bytes
  | 0x03 => framedExtent? bytes
  | 0x04 => framedExtent? bytes
  | 0x05 => (lengthField? 0 bytes).bind fun n => fixedExtent? (n + 5) bytes
  | 0x06 => some 0
  | 0x07 => fixedExtent? 12 bytes
  | 0x08 => fixedExtent? 1 bytes
  | 0x09 => fixedExtent? 8 bytes
  | 0x0A => some 0
  | 0x0B =>
    (bytes.terminated?).bind fun (pattern, rest) =>
      (rest.terminated?).map fun (options, _) => pattern.utf8ByteSize + options.utf8ByteSize + 2
  | 0x0C => (countedExtent? bytes).bind fun n => fixedExtent? (n + 12) bytes
  | 0x0D => countedExtent? bytes
  | 0x0E => countedExtent? bytes
  | 0x0F => (lengthField? 0 bytes).bind fun n => fixedExtent? n bytes
  | 0x10 => fixedExtent? 4 bytes
  | 0x11 => fixedExtent? 8 bytes
  | 0x12 => fixedExtent? 8 bytes
  | 0x13 => fixedExtent? 16 bytes
  | 0xFF => some 0
  | 0x7F => some 0
  | _ => none

/-- Split the first element off. -/
def first? : Bytes → Option (RawElement × Bytes)
  | [] => none
  | tag :: named =>
    (Bytes.terminated? named).bind fun (key, bytes) =>
      (extent? tag bytes).map fun n => (⟨tag, key, bytes.take n⟩, bytes.drop n)

end RawElement

/-- The elements in front of the closing zero byte, looking at no more than
`limit` of them. -/
def Elements.walk : (limit : Nat) → Bytes → Elements
  | 0, _ => ⟨[], false⟩
  | _, [last] => ⟨[], last = 0⟩
  | limit + 1, bytes =>
    match RawElement.first? bytes with
    | none => ⟨[], false⟩
    | some (element, rest) =>
      let others := walk limit rest
      ⟨element :: others.readable, others.whole⟩

/-- A document that has not been decoded: its length field counts its bytes
and its last byte is zero. Nothing in between is promised. -/
structure RawDocument where
  bytes : Bytes
  framed : bytes.holds 5 ∧ bytes.toInt32.toInt = bytes.length ∧ bytes.getLast? = some 0

namespace RawDocument

/-- The bytes as a document, if they are framed as one. -/
def ofBytes? (bytes : Bytes) : Option RawDocument :=
  if h : bytes.holds 5 ∧ bytes.toInt32.toInt = bytes.length ∧ bytes.getLast? = some 0 then
    some ⟨bytes, h⟩
  else
    none

/-- The elements of a document. -/
def elements (raw : RawDocument) : Elements :=
  .walk raw.bytes.length (raw.bytes.drop 4)

theorem ofBytes?_bytes (raw : RawDocument) : ofBytes? raw.bytes = some raw := by
  simp [ofBytes?, raw.framed]

theorem bytes_of_ofBytes? {bytes : Bytes} {raw : RawDocument} (h : ofBytes? bytes = some raw) :
    raw.bytes = bytes := by
  unfold ofBytes? at h
  split at h <;> simp_all
  exact h ▸ rfl

end RawDocument

end CommandLink
