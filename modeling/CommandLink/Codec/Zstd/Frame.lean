import CommandLink.Bytes
import CommandLink.Codec.Fill
import CommandLink.Codec.Zstd.Block
import CommandLink.Codec.Zstd.Checksum

/-!
# Frames

Data is a run of frames, some of which are only to be skipped. Output is
handed out block by block: once all output so far has been given, the next
block is decompressed as a whole. A frame that tells its size, fits the room of
one read and lies complete in the data is decompressed in one go, so damage
anywhere in it shows before any byte is given.
-/

namespace CommandLink.Zstd

/-- What the header of a frame tells. -/
structure FrameHeader where
  contentSize : Option Nat
  windowSize : Nat
  hasChecksum : Bool
  size : Nat

namespace FrameHeader

/-- The most a block may hold. -/
def blockLimit (frame : FrameHeader) : Nat := min frame.windowSize (128 * 1024)

/-- How much output a frame that is decompressed block by block has room for, if
there is a bound: a size told is one, unless the window makes do with less. -/
def roomBound? (frame : FrameHeader) : Option Nat :=
  frame.contentSize.filter (· ≤ frame.windowSize + 2 * frame.blockLimit + 64)

/-- The largest window that is followed. -/
def maxWindow : Nat := (1 <<< 27) + 1

end FrameHeader

/-- Why decompression cannot go on. -/
inductive Halt where
  | exhausted
  | damaged

/-- What stands at the start of a frame. -/
inductive FrameStart where
  | content (header : FrameHeader)
  | skipped (size : Nat)

/-- The mark of a frame with content. -/
def contentMark : Nat := 0xFD2FB528

/-- The mark of a frame to be skipped, up to its lowest four bits. -/
def skippedMark : Nat := 0x184D2A50

/-- Whether the bytes there are could still begin with a mark. -/
def couldBegin (data : ByteArray) (offset count mark : Nat) : Bool :=
  BackwardBits.number data offset count = mark % (1 <<< (8 * count))

/-- Whether fewer than four bytes could still begin a frame. -/
def couldBeFrame (data : ByteArray) (offset count : Nat) : Bool :=
  couldBegin data offset count contentMark ||
    (if count = 0 then true
     else BackwardBits.number data offset count / 16 * 16 = skippedMark % (1 <<< (8 * count)))

/-- Read the header of a frame with content. -/
def readHeader (data : ByteArray) (offset available : Nat) : Except Halt FrameHeader :=
  let descriptor := BackwardBits.number data (offset + 4) 1
  let single := descriptor / 32 % 2 = 1
  let windowBytes := if single then 0 else 1
  let dictionaryBytes := match descriptor % 4 with
    | 0 => 0
    | 1 => 1
    | 2 => 2
    | _ => 4
  let contentBytes := match descriptor / 64 with
    | 0 => if single then 1 else 0
    | 1 => 2
    | 2 => 4
    | _ => 8
  let size := 5 + windowBytes + dictionaryBytes + contentBytes
  if available < size then .error .exhausted
  else if descriptor / 8 % 2 = 1 then .error .damaged
  else
    let windowByte := BackwardBits.number data (offset + 5) 1
    let base := 1 <<< (10 + windowByte / 8)
    let dictionary := BackwardBits.number data (offset + 5 + windowBytes) dictionaryBytes
    let content :=
      BackwardBits.number data (offset + 5 + windowBytes + dictionaryBytes) contentBytes
        + (if contentBytes = 2 then 256 else 0)
    if dictionary ≠ 0 ∨ (¬ single ∧ 31 < 10 + windowByte / 8) then .error .damaged
    else
      .ok
        { contentSize :=
            if contentBytes = 0 ∨ content = UInt64.size - 1 then none else some content
          windowSize := if single then content else base + base / 8 * (windowByte % 8)
          hasChecksum := descriptor / 4 % 2 = 1
          size }

/-- Read the start of a frame. -/
def readStart (data : ByteArray) (offset : Nat) : Except Halt FrameStart :=
  let available := data.size - offset
  if available < 5 then
    if couldBeFrame data offset (min available 4) then .error .exhausted else .error .damaged
  else
    let mark := BackwardBits.number data offset 4
    if mark / 16 * 16 = skippedMark then
      if available < 8 then .error .exhausted
      else
        let size := 8 + BackwardBits.number data (offset + 4) 4
        if available < size then .error .exhausted else .ok (.skipped size)
    else if mark ≠ contentMark then .error .damaged
    else (readHeader data offset available).map .content

/-- The three bytes in front of a block. -/
structure BlockHeader where
  last : Bool
  kind : Nat
  size : Nat

/-- Read the front of a block. -/
def BlockHeader.read (data : ByteArray) (offset : Nat) : BlockHeader :=
  let n := BackwardBits.number data offset 3
  ⟨n % 2 = 1, n / 2 % 4, n / 8⟩

/-- How many bytes follow the front of a block. -/
def BlockHeader.stored (block : BlockHeader) : Nat := if block.kind = 1 then 1 else block.size

/-- Whether the blocks from an offset on, and a check value, are all there. -/
def isComplete (hasChecksum : Bool) (data : ByteArray) : (fuel offset : Nat) → Bool
  | 0, _ => false
  | fuel + 1, offset =>
    let block := BlockHeader.read data offset
    let next := offset + 3 + block.stored
    if data.size < next ∨ block.kind = 3 then false
    else if block.last then next + (if hasChecksum then 4 else 0) ≤ data.size
    else isComplete hasChecksum data fuel next

/-- A frame being decompressed, at once or block by block. -/
structure Frame where
  header : FrameHeader
  atOnce : Bool

/-- What comes next in the data. -/
inductive Stage where
  | between (finished : Bool)
  | block (frame : Frame) (memory : Memory)
  | copied (frame : Frame) (memory : Memory) (left : Nat) (last : Bool)
  | check

/-- Decompression in progress: what has been read of the data, and what has
been given of the output of the present frame. -/
structure State where
  data : ByteArray
  position : Nat
  stage : Stage
  out : ByteArray
  given : Nat

namespace State

/-- Ready to decompress the data. -/
def start (data : Bytes) : State := ⟨⟨data.toArray⟩, 0, .between false, .empty, 0⟩

/-- The stage after a block. -/
def afterBlock (frame : Frame) (memory : Memory) (last : Bool) : Stage :=
  if !last then .block frame memory
  else if frame.header.hasChecksum then .check
  else .between true

/-- How much output a frame has room for, if there is a bound. -/
def bound? (frame : Frame) : Option Nat :=
  if frame.atOnce then frame.header.contentSize else frame.header.roomBound?

/-- Whether the output after a block agrees with the size that the frame tells.
An empty last block is not held to it, except in one go. -/
def agrees (frame : Frame) (last empty : Bool) (size : Nat) : Bool :=
  (bound? frame).all (size ≤ ·) &&
    (!(last && (frame.atOnce || !empty)) || frame.header.contentSize.all (size = ·))

/-- Enter the next frame. -/
def enter (room : Nat) : State → Except Halt State
  | ⟨data, position, _, _, _⟩ =>
    match readStart data position with
    | .error halt => .error halt
    | .ok (.skipped size) => .ok ⟨data, position + size, .between true, .empty, 0⟩
    | .ok (.content header) =>
      let next := position + header.size
      let fits := match header.contentSize with
        | none => false
        | some size => size ≤ room
      let atOnce := fits && isComplete header.hasChecksum data (data.size + 1) next
      if !atOnce ∧ FrameHeader.maxWindow < header.windowSize then .error .damaged
      else .ok ⟨data, next, .block ⟨header, atOnce⟩ .initial, .empty, 0⟩

/-- Decompress the next block. -/
def nextBlock (frame : Frame) (memory : Memory) : State → Except Halt State
  | ⟨data, position, _, out, given⟩ =>
    if data.size < position + 3 then .error .exhausted
    else
      let block := BlockHeader.read data position
      let start := position + 3
      let limit := frame.header.blockLimit
      if block.kind = 3 ∨ (!frame.atOnce ∧ limit < block.stored) then .error .damaged
      else if block.stored = 0 ∧ ¬ (block.kind = 2 ∧ frame.atOnce) then
        if agrees frame block.last true out.size then
          .ok ⟨data, start, afterBlock frame memory block.last, out, given⟩
        else .error .damaged
      else if block.kind = 0 then
        .ok ⟨data, start, .copied frame memory block.size block.last, out, given⟩
      else if data.size < start + block.stored then .error .exhausted
      else
        let before := out.size
        let result : Option (Memory × ByteArray) :=
          if block.kind = 1 then
            some (memory, appendCopies ((data[start]?).getD 0) block.size out)
          else if limit < block.size then none
          else decodeBlock memory limit (data.extract start (start + block.size)) out
        match result with
        | none => .error .damaged
        | some (memory, out) =>
          if (frame.atOnce ∨ out.size - before ≤ limit)
              ∧ agrees frame block.last false out.size then
            .ok ⟨data, start + block.stored, afterBlock frame memory block.last, out, given⟩
          else .error .damaged

/-- One step through the data, with so much room for output. -/
def step (room : Nat) : State → Except Halt State
  | ⟨data, position, .between finished, out, given⟩ =>
    enter room ⟨data, position, .between finished, out, given⟩
  | ⟨data, position, .block frame memory, out, given⟩ =>
    nextBlock frame memory ⟨data, position, .between false, out, given⟩
  | ⟨data, position, .copied frame memory left last, out, given⟩ =>
    let count := min left (data.size - position)
    if count = 0 then .error .exhausted
    else
      let out := Bytes.appendSlice data position count out
      let stage :=
        if count < left then .copied frame memory (left - count) last
        else afterBlock frame memory last
      if agrees frame (last && count = left) false out.size then
        .ok ⟨data, position + count, stage, out, given⟩
      else .error .damaged
  | ⟨data, position, .check, out, given⟩ =>
    if data.size < position + 4 then .error .exhausted
    else if BackwardBits.number data position 4 = (Checksum.hash out).toNat % UInt32.size then
      .ok ⟨data, position + 4, .between true, out, given⟩
    else .error .damaged

/-- Give output that is there. -/
def give (room : Nat) : State → Bytes × State
  | ⟨data, position, stage, out, given⟩ =>
    let upto := min out.size (given + room)
    ((out.extract given upto).data.toList, ⟨data, position, stage, out, upto⟩)

/-- Damaged data. -/
def damagedFault : CodecFault := .damaged .other "zstd: corrupt data"

/-- Go on until the room is filled, a frame has ended or the data is used up.
Output that was there before the data ran out is given first. -/
def produce : (fuel room : Nat) → Bytes → State → Except CodecFault (Bytes × State)
  | 0, _, soFar, state => .ok (soFar, state)
  | fuel + 1, room, soFar, state =>
    match betweenFrames state, soFar with
    | some true, [] =>
      if state.data.size ≤ state.position then .ok ([], state)
      else onward fuel room [] state
    | some _, b :: bytes => .ok (b :: bytes, state)
    | _, soFar => onward fuel room soFar state
where
  /-- Whether a frame has ended before, when the state is between two. -/
  betweenFrames (state : State) : Option Bool :=
    match state.stage with
    | .between finished => some finished
    | _ => none
  /-- Take a step, hand out what it has added and decide whether to go on. -/
  onward (fuel room : Nat) (soFar : Bytes) (state : State) : Except CodecFault (Bytes × State) :=
    match step room state with
    | .error .damaged => .error damagedFault
    | .error .exhausted => if soFar = [] then .error .truncated else .ok (soFar, state)
    | .ok next =>
      let (bytes, next) := give room next
      if next.given < next.out.size then .ok (soFar ++ bytes, next)
      else produce fuel (room - bytes.length) (soFar ++ bytes) next

/-- Give what is there, or decompress more. -/
def read (room : Nat) (state : State) : Except CodecFault (Bytes × State) :=
  if state.given < state.out.size then .ok (give room state)
  else produce (state.data.size - state.position + 1) room [] state

end State

/-- Decompressed bytes of frames. -/
def reader : Reader State := ⟨State.read⟩

/-- Append exactly the declared number of bytes, or nothing. -/
def uncompress (data : Bytes) (declared : Nat) (buffer : Bytes) : Fill :=
  reader.fill (State.start data) declared buffer

/-- Cut data into blocks that hold it as it is. -/
def rawBlocks : (fuel : Nat) → Bytes → Bytes
  | 0, _ => []
  | fuel + 1, data =>
    let part := data.take (128 * 1024)
    let rest := data.drop (128 * 1024)
    let last := if rest = [] then 1 else 0
    Bytes.ofNat 3 (8 * part.length + last) ++ part
      ++ (if rest = [] then [] else rawBlocks fuel rest)

/-- A frame that holds the data as it is, with a window of one block. -/
def compress (data : Bytes) : Bytes :=
  Bytes.ofNat 4 contentMark ++ [0x80, 56] ++ Bytes.ofNat 4 data.length
    ++ rawBlocks (data.length + 1) data

end CommandLink.Zstd
