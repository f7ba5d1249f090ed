import CommandLink.Bytes
import CommandLink.Codec.Deflate.Tables

/-!
# Inflating

Decompression goes symbol by symbol. Every step takes at least one bit, so the
bits that remain bound how many steps are left. A distance that reaches back
past the start of the data meets zeros: the window begins filled with them.
-/

namespace CommandLink.Deflate

/-- What the next step has to read. -/
inductive Phase where
  | header
  | block
  | stored (left : Nat) (final : Bool)
  | coded (tables : Tables) (final : Bool)
  | trailer
  | finished

/-- Decompression in progress. -/
structure Inflater where
  source : BitSource
  out : ByteArray
  phase : Phase

namespace Inflater

/-- Ready to read the data. -/
def start (data : Bytes) : Inflater :=
  ⟨⟨⟨data.toArray⟩, 0⟩, .empty, .header⟩

/-- Repeat bytes from a distance back. -/
def copyBack (distance : Nat) : (length : Nat) → ByteArray → ByteArray
  | 0, out => out
  | length + 1, out =>
    let byte := if out.size < distance then 0 else (out[out.size - distance]?).getD 0
    copyBack distance length (out.push byte)

/-- The phase after a block. -/
def afterBlock (final : Bool) : Phase := if final then .trailer else .block

/-- The check value of the output: two sums, each modulo the largest prime
below `2 ^ 16`. -/
def checksum (out : ByteArray) : Nat :=
  let step (sums : Nat × Nat) (byte : UInt8) : Nat × Nat :=
    let low := (sums.1 + byte.toNat) % 65521
    (low, (sums.2 + low) % 65521)
  let sums := out.data.foldl step (1, 0)
  65536 * sums.2 + sums.1

/-- Whether two header bytes introduce data that can be read: the right method
and window, a check value of its own and no preset dictionary. -/
def isHeader (method flags : Nat) : Bool :=
  (256 * method + flags) % 31 = 0 && flags / 32 % 2 = 0 && method % 16 = 8 && method / 16 ≤ 7

/-- The bytes of a big-endian field, read lowest first. -/
def reversed32 (n : Nat) : Nat :=
  ((n % 256) <<< 24) + ((n >>> 8 % 256) <<< 16) + ((n >>> 16 % 256) <<< 8) + n >>> 24

/-- Read the start of a block. -/
def openBlock (source : BitSource) : Except Halt (Phase × BitSource) :=
  match source.bits? 3 with
  | none => .error .truncated
  | some (bits, next) =>
    let final := bits % 2 = 1
    if bits / 2 = 0 then
      match next.align.bits? 32 with
      | none => .error .truncated
      | some (sizes, rest) =>
        let length := sizes % 65536
        if sizes / 65536 ≠ 65535 - length then .error .damaged
        else if length = 0 then .ok (afterBlock final, rest)
        else .ok (.stored length final, rest)
    else if bits / 2 = 1 then .ok (.coded .fixed final, next)
    else if bits / 2 = 2 then
      (Tables.read next).map fun (tables, rest) => (.coded tables final, rest)
    else .error .damaged

/-- What a coded block holds next. -/
inductive Symbol where
  | literal (byte : UInt8)
  | blockEnd
  | back (distance length : Nat)

/-- Read the next part of a coded block. -/
def readSymbol (tables : Tables) (source : BitSource) : Except Halt (Symbol × BitSource) :=
  (tables.literals.read source).bind fun (symbol, next) =>
    if symbol < 256 then .ok (.literal (UInt8.ofNat symbol), next)
    else if symbol = 256 then .ok (.blockEnd, next)
    else
      (Span.read? lengthSpans (symbol - 257) next).bind fun (length, afterLength) =>
        (tables.distances.read afterLength).bind fun (code, afterCode) =>
          (Span.read? distanceSpans code afterCode).map fun (distance, rest) =>
            (.back distance length, rest)

/-- One step. A halt leaves everything as it was. -/
def step : Inflater → Inflater × Option Halt
  | ⟨source, out, .header⟩ =>
    match source.bits? 16 with
    | none => (⟨source, out, .header⟩, some .truncated)
    | some (bits, rest) =>
      if isHeader (bits % 256) (bits / 256) then (⟨rest, out, .block⟩, none)
      else (⟨source, out, .header⟩, some .damaged)
  | ⟨source, out, .block⟩ =>
    match openBlock source with
    | .error halt => (⟨source, out, .block⟩, some halt)
    | .ok (phase, rest) => (⟨rest, out, phase⟩, none)
  | ⟨source, out, .stored left final⟩ =>
    let offset := source.position / 8
    let count := min left (source.data.size - offset)
    if count = 0 then (⟨source, out, .stored left final⟩, some .truncated)
    else
      let rest := { source with position := 8 * (offset + count) }
      let phase := if count = left then afterBlock final else .stored (left - count) final
      (⟨rest, Bytes.appendSlice source.data offset count out, phase⟩, none)
  | ⟨source, out, .coded tables final⟩ =>
    match readSymbol tables source with
    | .error halt => (⟨source, out, .coded tables final⟩, some halt)
    | .ok (.literal byte, rest) => (⟨rest, out.push byte, .coded tables final⟩, none)
    | .ok (.blockEnd, rest) => (⟨rest, out, afterBlock final⟩, none)
    | .ok (.back distance length, rest) =>
      (⟨rest, copyBack distance length out, .coded tables final⟩, none)
  | ⟨source, out, .trailer⟩ =>
    match source.align.bits? 32 with
    | none => (⟨source, out, .trailer⟩, some .truncated)
    | some (bits, rest) =>
      if reversed32 bits = checksum out then (⟨rest, out, .finished⟩, none)
      else (⟨source, out, .trailer⟩, some .damaged)
  | ⟨source, out, .finished⟩ => (⟨source, out, .finished⟩, none)

/-- Go on until the output is longer than a target, or nothing more comes. -/
def advance (target : Nat) : (fuel : Nat) → Inflater → Inflater × Option Halt
  | 0, inflater => (inflater, none)
  | fuel + 1, inflater =>
    match inflater with
    | ⟨source, out, .finished⟩ => (⟨source, out, .finished⟩, none)
    | ⟨source, out, phase⟩ =>
      if target < out.size then (⟨source, out, phase⟩, none)
      else
        match step ⟨source, out, phase⟩ with
        | (next, none) => advance target fuel next
        | (stuck, some halt) => (stuck, some halt)

end Inflater

end CommandLink.Deflate
