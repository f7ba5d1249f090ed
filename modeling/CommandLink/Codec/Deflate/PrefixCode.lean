import CommandLink.Codec.BitSource

/-!
# Prefix codes

A prefix code is a tree whose branches are bits. The lengths of the codewords
determine it: shorter codewords come before longer ones, and codewords of one
length follow the order of their symbols.
-/

namespace CommandLink.Deflate

/-- Why decompression cannot go on: the data ended, or it makes no sense. -/
inductive Halt where
  | truncated
  | damaged
  deriving DecidableEq, Repr

/-- A code as a tree; an unused branch belongs to no codeword. -/
inductive PrefixCode where
  | unused
  | symbol (value : Nat)
  | fork (zero one : PrefixCode)

namespace PrefixCode

/-- Give a symbol a codeword. -/
def insert : PrefixCode → List Bool → Nat → PrefixCode
  | _, [], value => .symbol value
  | .fork zero one, false :: word, value => .fork (zero.insert word value) one
  | .fork zero one, true :: word, value => .fork zero (one.insert word value)
  | _, false :: word, value => .fork (insert .unused word value) .unused
  | _, true :: word, value => .fork .unused (insert .unused word value)

/-- The low bits of a number as a codeword, the highest first. -/
def codeword : (length : Nat) → Nat → List Bool
  | 0, _ => []
  | length + 1, n => n.testBit length :: codeword length n

/-- The longest codeword there may be. -/
def maxLength : Nat := 15

/-- How many symbols have a codeword of a given length. -/
def countOf (lengths : List Nat) (length : Nat) : Nat := lengths.count length

/-- The first codeword of a given length. -/
def firstWord (lengths : List Nat) : (length : Nat) → Nat
  | 0 => 0
  | 1 => 0
  | length + 2 => 2 * (firstWord lengths (length + 1) + countOf lengths (length + 1))

/-- Whether the codewords use up all bit patterns. A code of one symbol or none
need not. -/
def isAdmissible (lengths : List Nat) : Bool :=
  let used := lengths.filter (· ≠ 0)
  let covered := (used.map fun length => 1 <<< (maxLength - length)).foldr (· + ·) 0
  used.length ≤ 1 || covered = 1 <<< maxLength

/-- Hand out the codewords of one length, starting at a place in the list of
lengths and at a word. -/
def assign (length : Nat) : (place word : Nat) → List Nat → PrefixCode → PrefixCode
  | _, _, [], code => code
  | place, word, l :: rest, code =>
    if l = length then
      assign length (place + 1) (word + 1) rest (code.insert (codeword length word) place)
    else
      assign length (place + 1) word rest code

/-- The code of given codeword lengths; length zero means no codeword. -/
def ofLengths (lengths : List Nat) : PrefixCode :=
  (List.range maxLength).foldl
    (fun code i => assign (i + 1) 0 (firstWord lengths (i + 1)) lengths code) .unused

/-- Read one symbol. -/
def read : PrefixCode → BitSource → Except Halt (Nat × BitSource)
  | .unused, _ => .error .damaged
  | .symbol value, source => .ok (value, source)
  | .fork zero one, source =>
    match source.bit? with
    | none => .error .truncated
    | some (false, rest) => zero.read rest
    | some (true, rest) => one.read rest

end PrefixCode

end CommandLink.Deflate
