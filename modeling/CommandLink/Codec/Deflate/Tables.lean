import CommandLink.Codec.Deflate.PrefixCode

/-!
# The codes of a block

A block uses one code for bytes and match lengths and another for distances.
Either both are fixed, or the block begins with their codeword lengths, which
are themselves coded.
-/

namespace CommandLink.Deflate

/-- The two codes of a block. -/
structure Tables where
  literals : PrefixCode
  distances : PrefixCode

namespace Tables

/-- The codes of a block that brings none. -/
def fixed : Tables :=
  { literals := .ofLengths (List.replicate 144 8 ++ List.replicate 112 9 ++
      List.replicate 24 7 ++ List.replicate 8 8)
    distances := .ofLengths (List.replicate 30 5) }

/-- The order in which the lengths of the length code itself are written. -/
def lengthOrder : List Nat :=
  [16, 17, 18, 0, 8, 7, 9, 6, 10, 5, 11, 4, 12, 3, 13, 2, 14, 1, 15]

/-- Read fields of three bits. -/
def readTriples : (count : Nat) → BitSource → Except Halt (List Nat × BitSource)
  | 0, source => .ok ([], source)
  | count + 1, source =>
    match source.bits? 3 with
    | none => .error .truncated
    | some (n, next) =>
      (readTriples count next).map fun (rest, last) => (n :: rest, last)

/-- What a symbol of the length code stands for: how often a length is
repeated, given the length before. -/
def repetition (symbol : Nat) (previous : Option Nat) (source : BitSource) :
    Except Halt (Nat × Nat × BitSource) :=
  let extra (bits least length : Nat) : Except Halt (Nat × Nat × BitSource) :=
    match source.bits? bits with
    | none => .error .truncated
    | some (n, next) => .ok (length, least + n, next)
  if symbol < 16 then .ok (symbol, 1, source)
  else if symbol = 16 then
    match previous with
    | none => .error .damaged
    | some length => extra 2 3 length
  else if symbol = 17 then extra 3 3 0
  else extra 7 11 0

/-- Read lengths until there are as many as wanted, last length first. A
repetition that goes past the wanted number is refused. -/
def readLengths (code : PrefixCode) (wanted : Nat) :
    (fuel : Nat) → List Nat → BitSource → Except Halt (List Nat × BitSource)
  | 0, _, _ => .error .damaged
  | fuel + 1, soFar, source =>
    if wanted ≤ soFar.length then
      if soFar.length = wanted then .ok (soFar.reverse, source) else .error .damaged
    else
      (code.read source).bind fun (symbol, next) =>
        (repetition symbol soFar.head? next).bind fun (length, times, rest) =>
          readLengths code wanted fuel (List.replicate times length ++ soFar) rest

/-- Read the codes at the start of a block. -/
def read (source : BitSource) : Except Halt (Tables × BitSource) :=
  match source.bits? 14 with
  | none => .error .truncated
  | some (counts, next) =>
    let literalCount := counts % 32 + 257
    let distanceCount := counts / 32 % 32 + 1
    let lengthCount := counts / 1024 + 4
    if 286 < literalCount ∨ 30 < distanceCount then .error .damaged
    else
      (readTriples lengthCount next).bind fun (triples, afterTriples) =>
        let placed := lengthOrder.zip triples
        let lengthLengths := (List.range 19).map fun i => (placed.lookup i).getD 0
        if !PrefixCode.isAdmissible lengthLengths then .error .damaged
        else
          let wanted := literalCount + distanceCount
          (readLengths (.ofLengths lengthLengths) wanted (wanted + 1) [] afterTriples).bind
            fun (lengths, rest) =>
              let literals := lengths.take literalCount
              let distances := lengths.drop literalCount
              if PrefixCode.isAdmissible literals && PrefixCode.isAdmissible distances then
                .ok (⟨.ofLengths literals, .ofLengths distances⟩, rest)
              else
                .error .damaged

end Tables

/-- The least value and the number of extra bits behind a symbol. -/
structure Span where
  least : Nat
  extra : Nat

/-- Spans that follow one another, from their numbers of extra bits. -/
def Span.chain : (least : Nat) → List Nat → List Span
  | _, [] => []
  | least, extra :: rest => ⟨least, extra⟩ :: chain (least + (1 <<< extra)) rest

/-- Match lengths, from symbol 257 on. -/
def lengthSpans : List Span :=
  Span.chain 3 [0, 0, 0, 0, 0, 0, 0, 0, 1, 1, 1, 1, 2, 2, 2, 2, 3, 3, 3, 3, 4, 4, 4, 4, 5, 5, 5, 5]
    ++ [⟨258, 0⟩]

/-- Match distances. -/
def distanceSpans : List Span :=
  Span.chain 1 [0, 0, 0, 0, 1, 1, 2, 2, 3, 3, 4, 4, 5, 5, 6, 6, 7, 7, 8, 8, 9, 9, 10, 10,
    11, 11, 12, 12, 13, 13]

/-- Read the value behind a symbol. -/
def Span.read? (spans : List Span) (symbol : Nat) (source : BitSource) :
    Except Halt (Nat × BitSource) :=
  match spans[symbol]? with
  | none => .error .damaged
  | some span =>
    match source.bits? span.extra with
    | none => .error .truncated
    | some (n, rest) => .ok (span.least + n, rest)

end CommandLink.Deflate
