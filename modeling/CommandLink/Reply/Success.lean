import CommandLink.Bson.Decode
import CommandLink.Error

/-!
# Whether a reply reports success

A reply says under `ok` whether its command succeeded: a number other than
zero, or true. The answer is read off the bytes, by a walk that stops at the
key and leaves the rest of the reply unread. On a decoded reply the same rule
is `Document.reportsSuccess`.
-/

namespace CommandLink

/-- Whether a value under `ok` means success. -/
def Bson.meansSuccess : Bson → Bool
  | .double bits => !bits.isZero
  | .int32 value => value ≠ 0
  | .int64 value => value ≠ 0
  | .boolean value => value
  | _ => false

/-- Whether a decoded reply reports success. -/
def Document.reportsSuccess (reply : Document) : Bool :=
  match reply.get? "ok" with
  | some value => value.meansSuccess
  | none => false

namespace RawElement

/-- Whether an element means success. Of a value that holds documents only the
frame is looked at: it never does. -/
def meansSuccess? (element : RawElement) : Option Bool :=
  match element.tag with
  | 0x03 => (RawDocument.ofBytes? element.value).map fun _ => false
  | 0x04 => (RawDocument.ofBytes? element.value).map fun _ => false
  | 0x0F => (codeWithScope? element.value).map fun _ => false
  | _ => element.leaf?.map Bson.meansSuccess

end RawElement

namespace RawDocument

/-- The first element of a name that the walk comes to, if the walk gets that
far or to the end. -/
def find? (raw : RawDocument) (key : String) : Except DecodeFault (Option RawElement) :=
  match raw.elements.readable.find? (·.key = key) with
  | some element => .ok (some element)
  | none => if raw.elements.whole then .ok none else .error .malformedReply

/-- Whether a reply reports success. -/
def reportsSuccess (raw : RawDocument) : Except LinkError Bool :=
  match raw.find? "ok" with
  | .error fault => .error (.decode fault)
  | .ok none => .ok false
  | .ok (some element) =>
    match element.meansSuccess? with
    | some success => .ok success
    | none => .error (.decode .malformedReply)

/-- The decoded document. -/
def toDocument (raw : RawDocument) : Except LinkError Document :=
  match raw.decode? with
  | some document => .ok document
  | none => .error (.decode .undecodable)

end RawDocument

end CommandLink
