import CommandLink.Bytes
import CommandLink.Codec.Zstd.LiteralCode

/-!
# Compressed blocks

A block holds literals and then sequences, each of which takes some literals
and repeats bytes from further back. Codes and tables of one block may be used
again by the blocks after it, and so may the last three offsets.
-/

namespace CommandLink.Zstd

/-- What a block leaves to those after it. -/
structure Memory where
  literalCode : Option LiteralCode
  tables : Option (StateTable × StateTable × StateTable)
  offsets : Nat × Nat × Nat

/-- Before the first block of a frame. -/
def Memory.initial : Memory := ⟨none, none, (1, 4, 8)⟩

/-- Append one byte again and again. -/
def appendCopies (byte : UInt8) : (count : Nat) → ByteArray → ByteArray
  | 0, out => out
  | count + 1, out => appendCopies byte count (out.push byte)

/-- Repeat bytes from a distance back. -/
def repeatBack (distance : Nat) : (count : Nat) → ByteArray → ByteArray
  | 0, out => out
  | count + 1, out => repeatBack distance count (out.push ((out[out.size - distance]?).getD 0))

/-- The literals of a block, the code they used and where they end. -/
structure Literals where
  bytes : ByteArray
  code : Option LiteralCode
  size : Nat

namespace Literals

/-- Read four streams of which the first three tell their sizes. -/
def readFour (code : LiteralCode) (data : ByteArray) (offset size count : Nat) :
    Option ByteArray :=
  if size < 10 ∨ count < 6 then none
  else
    let quarter := (count + 3) / 4
    let size₁ := BackwardBits.number data offset 2
    let size₂ := BackwardBits.number data (offset + 2) 2
    let size₃ := BackwardBits.number data (offset + 4) 2
    let start₁ := offset + 6
    let start₂ := start₁ + size₁
    let start₃ := start₂ + size₂
    let start₄ := start₃ + size₃
    let stop := offset + size
    if stop ≤ start₄ ∨ count < 3 * quarter then none
    else
      (code.readStream (data.extract start₁ start₂) quarter .empty).bind fun out =>
        (code.readStream (data.extract start₂ start₃) quarter out).bind fun out =>
          (code.readStream (data.extract start₃ start₄) quarter out).bind fun out =>
            code.readStream (data.extract start₄ stop) (count - 3 * quarter) out

/-- Read coded literals, with a code of their own or with the one before. -/
def readCoded (own : Bool) (previous : Option LiteralCode) (form : Nat) (data : ByteArray)
    (limit : Nat) : Option Literals :=
  if data.size < 5 then none
  else
    let head := if form ≤ 1 then 3 else form + 2
    let width := if form ≤ 1 then 10 else if form = 2 then 14 else 18
    let sizes := BackwardBits.number data 0 head / 16
    let count := sizes % (1 <<< width)
    let size := sizes >>> width
    if limit < count ∨ data.size < head + size then none
    else
      let code : Option (LiteralCode × Nat) :=
        if own then LiteralCode.read? (data.extract 0 (head + size)) head
        else previous.map fun code => (code, 0)
      code.bind fun (code, used) =>
        if size < used then none
        else
          let bytes :=
            if form = 0 then
              code.readStream (data.extract (head + used) (head + size)) count .empty
            else readFour code data (head + used) (size - used) count
          bytes.map fun bytes => ⟨bytes, some code, head + size⟩

/-- Read the literals at the front of a block. -/
def read (previous : Option LiteralCode) (data : ByteArray) (limit : Nat) : Option Literals :=
  match data[0]? with
  | none => none
  | some first =>
    let kind := first.toNat % 4
    let form := first.toNat / 4 % 4
    if kind = 2 then readCoded true previous form data limit
    else if kind = 3 then readCoded false previous form data limit
    else
      let head := if form = 1 then 2 else if form = 3 then 3 else 1
      let count :=
        if form % 2 = 0 then first.toNat / 8 else BackwardBits.number data 0 head / 16
      let size := if kind = 0 then count else 1
      if limit < count ∨ data.size < head + size then none
      else if kind = 0 then
        some ⟨data.extract head (head + count), previous, head + count⟩
      else
        some ⟨appendCopies ((data[head]?).getD 0) count .empty, previous, head + 1⟩

end Literals

/-- Take some literals, then repeat bytes from an offset back. -/
structure Sequence where
  literals : Nat
  offset : Nat
  length : Nat

namespace Sequence

/-- Extra bits and least values of one kind of code. -/
def spans (least : Nat) : List Nat → List (Nat × Nat)
  | [] => []
  | extra :: rest => (least, extra) :: spans (least + (1 <<< extra)) rest

/-- Literal lengths. -/
def literalSpans : Array (Nat × Nat) :=
  (spans 0 (List.replicate 16 0 ++ [1, 1, 1, 1, 2, 2, 3, 3, 4, 6, 7, 8, 9, 10, 11, 12, 13, 14, 15,
    16])).toArray

/-- Match lengths. -/
def lengthSpans : Array (Nat × Nat) :=
  (spans 3 (List.replicate 32 0 ++ [1, 1, 1, 1, 2, 2, 3, 3, 4, 4, 5, 7, 8, 9, 10, 11, 12, 13, 14,
    15, 16])).toArray

/-- The literal lengths of a block that brings no table for them. -/
def defaultLiterals : StateTable :=
  .ofFrequencies 6 [4, 3, 2, 2, 2, 2, 2, 2, 2, 2, 2, 2, 2, 1, 1, 1, 2, 2, 2, 2, 2, 2, 2, 2, 2, 3,
    2, 1, 1, 1, 1, 1, -1, -1, -1, -1]

/-- The offsets of a block that brings no table for them. -/
def defaultOffsets : StateTable :=
  .ofFrequencies 5 [1, 1, 1, 1, 1, 1, 2, 2, 2, 1, 1, 1, 1, 1, 1, 1, 1, 1, 1, 1, 1, 1, 1, 1, -1, -1,
    -1, -1, -1]

/-- The match lengths of a block that brings no table for them. -/
def defaultLengths : StateTable :=
  .ofFrequencies 6 [1, 4, 3, 2, 2, 2, 2, 2, 2, 1, 1, 1, 1, 1, 1, 1, 1, 1, 1, 1, 1, 1, 1, 1, 1, 1, 1,
    1, 1, 1, 1, 1, 1, 1, 1, 1, 1, 1, 1, 1, 1, 1, 1, 1, 1, 1, -1, -1, -1, -1, -1, -1, -1]

/-- Choose a table: the default, one symbol only, a described one, or the one
before. Tells how many bytes it took. -/
def chooseTable (mode : Nat) (fallback : StateTable) (previous : Option StateTable)
    (maxLog maxSymbols : Nat) (data : ByteArray) (offset : Nat) : Option (StateTable × Nat) :=
  if mode = 0 then some (fallback, 0)
  else if mode = 1 then
    match data[offset]? with
    | none => none
    | some symbol =>
      if maxSymbols ≤ symbol.toNat then none else some (.constant symbol.toNat, 1)
  else if mode = 2 then StateTable.read? maxLog maxSymbols (data.extract offset data.size)
  else previous.map fun table => (table, 0)

/-- Turn an offset code into an offset: small ones name one of the last three
offsets. -/
def resolve (value literals : Nat) (recent : Nat × Nat × Nat) : Nat × (Nat × Nat × Nat) :=
  let (a, b, c) := recent
  if 3 < value then (value - 3, (value - 3, a, b))
  else
    let choice := if literals = 0 then value + 1 else value
    if choice = 1 then (a, (a, b, c))
    else if choice = 2 then (b, (b, a, c))
    else if choice = 3 then (c, (c, a, b))
    else (a - 1, (a - 1, a, b))

/-- The states of the three tables. -/
structure Cursor where
  literal : CoderState
  offset : CoderState
  length : CoderState
  bits : BackwardBits

/-- Read sequences. After the last one no bit may be left. -/
def readAll (tables : StateTable × StateTable × StateTable) :
    (count : Nat) → Cursor → (Nat × Nat × Nat) → Option (List Sequence × (Nat × Nat × Nat))
  | 0, cursor, recent => if cursor.bits.left = 0 then some ([], recent) else none
  | count + 1, cursor, recent =>
    let (literalLeast, literalExtra) := (literalSpans[cursor.literal.symbol]?).getD (0, 0)
    let (lengthLeast, lengthExtra) := (lengthSpans[cursor.length.symbol]?).getD (0, 0)
    (cursor.bits.read? cursor.offset.symbol).bind fun (offsetLow, bits) =>
      (bits.read? lengthExtra).bind fun (lengthLow, bits) =>
        (bits.read? literalExtra).bind fun (literalLow, bits) =>
          let literals := literalLeast + literalLow
          let value := (1 <<< cursor.offset.symbol) + offsetLow
          let (offset, recent) := resolve value literals recent
          let sequence : Sequence := ⟨literals, offset, lengthLeast + lengthLow⟩
          let following : Option Cursor :=
            if count = 0 then some { cursor with bits }
            else
              (tables.1.next? cursor.literal bits).bind fun (literal, bits) =>
                (tables.2.2.next? cursor.length bits).bind fun (length, bits) =>
                  (tables.2.1.next? cursor.offset bits).map fun (offset, bits) =>
                    ⟨literal, offset, length, bits⟩
          following.bind fun cursor =>
            (readAll tables count cursor recent).map fun (rest, recent) =>
              (sequence :: rest, recent)

/-- Carry out sequences over the literals from a place on. What is left of the
literals follows the last sequence. -/
def execute (literals : ByteArray) : (place : Nat) → List Sequence → ByteArray → Option ByteArray
  | place, [], out => some (Bytes.appendSlice literals place (literals.size - place) out)
  | place, sequence :: rest, out =>
    if literals.size < place + sequence.literals then none
    else
      let out := Bytes.appendSlice literals place sequence.literals out
      if sequence.offset = 0 ∨ out.size < sequence.offset then none
      else
        execute literals (place + sequence.literals) rest
          (repeatBack sequence.offset sequence.length out)

/-- The number of sequences and how many bytes it took. -/
def readCount (data : ByteArray) (offset : Nat) : Option (Nat × Nat) :=
  match data[offset]? with
  | none => none
  | some first =>
    let size := if first.toNat < 128 then 1 else if first.toNat < 255 then 2 else 3
    if data.size < offset + size then none
    else if size = 1 then some (first.toNat, 1)
    else if size = 2 then
      some ((first.toNat - 128) * 256 + BackwardBits.number data (offset + 1) 1, 2)
    else some (BackwardBits.number data (offset + 1) 2 + 0x7F00, 3)

end Sequence

/-- Decompress a block behind the output of those before it. -/
def decodeBlock (memory : Memory) (limit : Nat) (data out : ByteArray) :
    Option (Memory × ByteArray) :=
  if data.size < 2 then none
  else
    (Literals.read memory.literalCode data limit).bind fun literals =>
      (Sequence.readCount data literals.size).bind fun (count, countSize) =>
        let modesAt := literals.size + countSize
        if count = 0 then
          if modesAt ≠ data.size then none
          else
            some ({ memory with literalCode := literals.code },
              Bytes.appendSlice literals.bytes 0 literals.bytes.size out)
        else
          match data[modesAt]? with
          | none => none
          | some modes =>
            if modes.toNat % 4 ≠ 0 then none
            else
              let literalAt := modesAt + 1
              (Sequence.chooseTable (modes.toNat / 64) Sequence.defaultLiterals
                (memory.tables.map (·.1)) 9 36 data literalAt).bind fun (literalTable, used₁) =>
              (Sequence.chooseTable (modes.toNat / 16 % 4) Sequence.defaultOffsets
                (memory.tables.map (·.2.1)) 8 32 data (literalAt + used₁)).bind
                  fun (offsetTable, used₂) =>
              (Sequence.chooseTable (modes.toNat / 4 % 4) Sequence.defaultLengths
                (memory.tables.map (·.2.2)) 9 53 data (literalAt + used₁ + used₂)).bind
                  fun (lengthTable, used₃) =>
              (BackwardBits.start?
                (data.extract (literalAt + used₁ + used₂ + used₃) data.size)).bind fun bits =>
              (literalTable.enter? bits).bind fun (literal, bits) =>
              (offsetTable.enter? bits).bind fun (offset, bits) =>
              (lengthTable.enter? bits).bind fun (length, bits) =>
              (Sequence.readAll (literalTable, offsetTable, lengthTable) count
                ⟨literal, offset, length, bits⟩ memory.offsets).bind fun (sequences, recent) =>
              (Sequence.execute literals.bytes 0 sequences out).map fun out =>
                (⟨literals.code, some (literalTable, offsetTable, lengthTable), recent⟩, out)

end CommandLink.Zstd
