import CommandLink.Bytes
import CommandLink.Error.Kind

/-!
# Filling a buffer from a decompressor

A decompressor is a reader: asked for at most some number of bytes it gives
some, gives none when its data has ended, or fails. The reader is trusted with
neither the amount nor the end: `Reader.fill` takes at most one byte more than
was declared, so it ends even when the reader never does, and a buffer that it
could not fill exactly is left as it was.
-/

namespace CommandLink

/-- Why data cannot be decompressed. -/
inductive CodecFault where
  | lengthMismatch (actual declared : Nat)
  | damaged (kind : FailureKind) (detail : String)
  deriving DecidableEq, Repr

namespace CodecFault

/-- The kind of failure that a transport would report. -/
def kind : CodecFault → FailureKind
  | lengthMismatch _ _ => .invalidData
  | damaged kind _ => kind

/-- The wording of a fault. -/
def message : CodecFault → String
  | lengthMismatch actual declared =>
    s!"decompressed length {actual} does not match the declared {declared}"
  | damaged _ detail => detail

/-- Data that ended before it was complete. -/
def truncated : CodecFault := damaged .unexpectedEof "the data ends early"

end CodecFault

/-- A buffer after an attempt to append to it. -/
structure Fill where
  buffer : Bytes
  result : Except CodecFault Unit

/-- Lengths that were declared have to be met. -/
def expectLength (actual declared : Nat) : Except CodecFault Unit :=
  if actual = declared then .ok () else .error (.lengthMismatch actual declared)

/-- A buffer that was to gain the declared number of bytes. It is left as it was before unless it
did. -/
def Fill.whole (fill : Fill) (declared : Nat) (buffer : Bytes) : Fill :=
  let gained := fill.buffer.length - buffer.length
  match fill.result.bind fun _ => expectLength gained declared with
  | .ok _ => ⟨fill.buffer, .ok ()⟩
  | .error fault => ⟨fill.buffer.take buffer.length, .error fault⟩

/-- A source of decompressed bytes with a state of its own. -/
structure Reader (σ : Type) where
  read : (room : Nat) → σ → Except CodecFault (Bytes × σ)

namespace Reader

variable {σ : Type}

/-- How many bytes are asked for at once. -/
def portion : Nat := 8192

/-- Append what the reader gives, as long as there is room. Of more than was
asked for only so much is taken. -/
def copy (reader : Reader σ) (room : Nat) (state : σ) (buffer : Bytes) : Fill :=
  if room = 0 then ⟨buffer, .ok ()⟩
  else
    match reader.read (min room portion) state with
    | .error fault => ⟨buffer, .error fault⟩
    | .ok (bytes, next) =>
      match bytes.take (min room portion) with
      | [] => ⟨buffer, .ok ()⟩
      | b :: taken => reader.copy (room - (taken.length + 1)) next (buffer ++ b :: taken)
termination_by room
decreasing_by omega

/-- Append exactly the declared number of bytes, or leave the buffer as it
was. -/
def fill (reader : Reader σ) (state : σ) (declared : Nat) (buffer : Bytes) : Fill :=
  let copied := reader.copy (declared + 1) state buffer
  let checked := copied.result.bind fun _ =>
    expectLength (copied.buffer.length - buffer.length) declared
  match checked with
  | .ok _ => ⟨copied.buffer, .ok ()⟩
  | .error fault => ⟨copied.buffer.take buffer.length, .error fault⟩

end Reader

end CommandLink
