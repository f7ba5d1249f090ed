import CommandLink.Codec.Zstd.StateTable

/-!
# The code of literals

A literal is read by looking at as many bits as the longest codeword has. Each
byte has a weight: the higher it is, the shorter the codeword. The weight of
the last byte is not written, it makes the weights add up to a power of two.
-/

namespace CommandLink.Zstd

/-- What a pattern of `width` bits begins with. -/
structure LiteralCode where
  width : Nat
  entries : Array (UInt8 × Nat)

namespace LiteralCode

/-- The share of all patterns that a weight takes. -/
def share (weight : Nat) : Nat := if weight = 0 then 0 else 1 <<< (weight - 1)

/-- The patterns that begin with a codeword of one weight. -/
def patterns (width weight : Nat) (weights : List Nat) : List (UInt8 × Nat) :=
  weights.zipIdx.flatMap fun (w, byte) =>
    if w = weight then List.replicate (share weight) (UInt8.ofNat byte, width + 1 - weight) else []

/-- The code of all weights but the last. -/
def ofWeights? (weights : List Nat) : Option LiteralCode :=
  let total := (weights.map share).foldr (· + ·) 0
  if total = 0 ∨ weights.any (12 < ·) then none
  else
    let width := total.log2 + 1
    let missing := (1 <<< width) - total
    if 12 < width ∨ missing ≠ 1 <<< missing.log2 then none
    else
      let all := weights ++ [missing.log2 + 1]
      let ones := all.count 1
      if ones < 2 ∨ ones % 2 = 1 then none
      else
        let entries := (List.range width).flatMap fun i => patterns width (i + 1) all
        some ⟨width, entries.toArray⟩

/-- Two weights in each byte, the first one high. -/
def packedWeights (data : ByteArray) (offset count : Nat) : List Nat :=
  (List.range count).map fun i =>
    let byte := ((data[offset + i / 2]?).getD 0).toNat
    if i % 2 = 0 then byte / 16 else byte % 16

/-- Read coded weights with two states that take turns, until the bits run
out. -/
def codedWeights (table : StateTable) :
    (room : Nat) → (state other : CoderState) → BackwardBits → Option (List Nat)
  | 0, _, _, _ => none
  | room + 1, state, other, bits =>
    match table.next? state bits with
    | none => if room = 0 then none else some [state.symbol, other.symbol]
    | some (next, rest) =>
      (codedWeights table room other next rest).map fun weights => state.symbol :: weights

/-- Read the description of a code and tell how many bytes it took. -/
def read? (data : ByteArray) (offset : Nat) : Option (LiteralCode × Nat) :=
  match data[offset]? with
  | none => none
  | some head =>
    if 128 ≤ head.toNat then
      let count := head.toNat - 127
      let size := (count + 1) / 2
      if data.size < offset + 1 + size then none
      else (ofWeights? (packedWeights data (offset + 1) count)).map fun code => (code, size + 1)
    else
      let size := head.toNat
      if data.size < offset + 1 + size then none
      else
        let coded := data.extract (offset + 1) (offset + 1 + size)
        (StateTable.read? 6 256 coded).bind fun (table, used) =>
          (BackwardBits.start? (coded.extract used size)).bind fun bits =>
            (table.enter? bits).bind fun (first, afterFirst) =>
              (table.enter? afterFirst).bind fun (second, rest) =>
                (codedWeights table 255 first second rest).bind fun weights =>
                  (ofWeights? weights).map fun code => (code, size + 1)

/-- Read literals until the wanted number is there. -/
def readRun (code : LiteralCode) : (count : Nat) → BackwardBits → ByteArray → Option ByteArray
  | 0, bits, out => if bits.left = 0 then some out else none
  | count + 1, bits, out =>
    match code.entries[bits.peek code.width]? with
    | none => none
    | some (byte, length) =>
      match bits.skip? length with
      | none => none
      | some rest => readRun code count rest (out.push byte)

/-- Read a stream of literals that has to end with its last literal. -/
def readStream (code : LiteralCode) (stream : ByteArray) (count : Nat) (out : ByteArray) :
    Option ByteArray :=
  (BackwardBits.start? stream).bind fun bits => readRun code count bits out

end LiteralCode

end CommandLink.Zstd
