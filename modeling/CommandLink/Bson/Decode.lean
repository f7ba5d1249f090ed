import CommandLink.Bson.Extended

/-!
# Decoding documents

Decoding reads every value that a walk has split off, however deep it lies.
A name met twice keeps its first place and takes its last value, the names of
array items are ignored, and a sub-document may spell a value.
-/

namespace CommandLink

namespace Elements

/-- Code, whose name has been met: it stands alone or before its scope. -/
def readCode (read : RawElement → Option Bson) (whole : Bool) (code : String) :
    List RawElement → Option Bson
  | [] => if whole then some (.javaScript code) else none
  | element :: _ =>
    if element.key = "$scope" then
      ((read element).bind Bson.document?).map fun scope => .javaScriptWithScope code scope
    else
      none

/-- A scope, whose name has been met: its code has to follow. -/
def readScope (scope : Document) : List RawElement → Option Bson
  | [] => none
  | element :: _ =>
    if element.key = "$code" then
      element.plainText?.map fun code => .javaScriptWithScope code scope
    else
      none

/-- Read the entries of a document into those read so far. -/
def collect (read : RawElement → Option Bson) (whole : Bool) (soFar : Document) :
    List RawElement → Option Bson
  | [] => if whole then some (.document soFar) else none
  | element :: rest =>
    if element.key = "$code" then
      element.plainText?.bind fun code => readCode read whole code rest
    else if element.key = "$scope" then
      ((read element).bind Bson.document?).bind fun scope => readScope scope rest
    else match Bson.Spelling.ofKey? element.key with
      | some spelling => spelling.read? element
      | none =>
        (read element).bind fun value => collect read whole (soFar.insert element.key value) rest

/-- Read a document or the value it spells. -/
def object? (read : RawElement → Option Bson) (elements : Elements) : Option Bson :=
  collect read elements.whole [] elements.readable

/-- Read the items of an array. -/
def array? (read : RawElement → Option Bson) (elements : Elements) : Option Bson :=
  if elements.whole then (elements.readable.mapM read).map Bson.array else none

end Elements

/-- Read a value, following documents in documents down to a given depth. -/
def RawElement.read? : (depth : Nat) → RawElement → Option Bson
  | 0, _ => none
  | depth + 1, element =>
    match element.tag with
    | 0x03 => (RawElement.nested element.value).object? (read? depth)
    | 0x04 => (RawElement.nested element.value).array? (read? depth)
    | 0x0F =>
      (RawElement.codeWithScope? element.value).bind fun (code, scope) =>
        ((scope.elements.object? (read? depth)).bind Bson.document?).map fun entries =>
          .javaScriptWithScope code entries
    | _ => element.leaf?

/-- Whether a value can be read, whatever its sub-documents spell. -/
def RawElement.isReadable : (depth : Nat) → RawElement → Bool
  | 0, _ => false
  | depth + 1, element =>
    match element.tag with
    | 0x03 => inside depth (RawElement.nested element.value)
    | 0x04 => inside depth (RawElement.nested element.value)
    | 0x0F =>
      match RawElement.codeWithScope? element.value with
      | some (_, scope) => inside depth scope.elements
      | none => false
    | _ => element.leaf?.isSome
where
  /-- Every element of a nested document can be read. -/
  inside (depth : Nat) (elements : Elements) : Bool :=
    elements.whole && elements.readable.all (isReadable depth)

/-- The document that the bytes write. No value lies deeper than there are
bytes. -/
def RawDocument.decode? (raw : RawDocument) : Option Document :=
  (raw.elements.object? (RawElement.read? raw.bytes.length)).bind Bson.document?

end CommandLink
