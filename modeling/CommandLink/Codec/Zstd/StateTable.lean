import CommandLink.Codec.Zstd.BackwardBits

/-!
# Tables of an entropy coder with states

A state stands for a symbol and tells how many bits to read for the state that
comes next. A table is built from how often each symbol occurs: more frequent
symbols own more states. A frequency of -1 stands for less than one.
-/

namespace CommandLink.Zstd

/-- What a state stands for and where it leads. -/
structure CoderState where
  symbol : Nat
  bits : Nat
  base : Nat

/-- A table with `2 ^ log` states. -/
structure StateTable where
  log : Nat
  states : Array CoderState

namespace StateTable

/-- The table that stands for one symbol only and reads nothing. -/
def constant (symbol : Nat) : StateTable := ⟨0, #[⟨symbol, 0, 0⟩]⟩

/-- Symbols with a frequency below one, in order. -/
def rareSymbols (frequencies : List Int) : List Nat :=
  (frequencies.zipIdx.filter fun (frequency, _) => frequency = -1).map (·.2)

/-- Every other symbol, as often as its frequency says. -/
def commonSymbols (frequencies : List Int) : List Nat :=
  frequencies.zipIdx.flatMap fun (frequency, symbol) => List.replicate frequency.toNat symbol

/-- The order in which states are handed out to common symbols. -/
def places (size common : Nat) : List Nat :=
  let stride := size / 2 + size / 8 + 3
  ((List.range size).map fun i => i * stride % size).filter (· < common)

/-- The symbols of all states: rare symbols own the last ones. -/
def symbols (log : Nat) (frequencies : List Int) : Array Nat :=
  let size := 1 <<< log
  let rare := rareSymbols frequencies
  let common := size - rare.length
  let placed := ((places size common).zip (commonSymbols frequencies)).foldl
    (fun table (place, symbol) => table.setIfInBounds place symbol) (Array.replicate size 0)
  (rare.zipIdx.foldl
    (fun table (symbol, i) => table.setIfInBounds (size - 1 - i) symbol) placed)

/-- The table of given frequencies. The states of a symbol are numbered from
its frequency up, and the number tells how many bits are left to read. -/
def ofFrequencies (log : Nat) (frequencies : List Int) : StateTable :=
  let first := (frequencies.map fun frequency => frequency.natAbs).toArray
  let step (built : Array CoderState × Array Nat) (symbol : Nat) :=
    let number := (built.2[symbol]?).getD 0
    let bits := log - number.log2
    (built.1.push ⟨symbol, bits, (number <<< bits) - (1 <<< log)⟩,
      built.2.setIfInBounds symbol (number + 1))
  ⟨log, ((symbols log frequencies).foldl step (#[], first)).1⟩

/-- What a state stands for. -/
def state (table : StateTable) (number : Nat) : CoderState :=
  (table.states[number]?).getD ⟨0, 0, 0⟩

/-- Read the first state. -/
def enter? (table : StateTable) (bits : BackwardBits) : Option (CoderState × BackwardBits) :=
  (bits.read? table.log).map fun (number, rest) => (table.state number, rest)

/-- Read the state after another. -/
def next? (table : StateTable) (state : CoderState) (bits : BackwardBits) :
    Option (CoderState × BackwardBits) :=
  (bits.read? state.bits).map fun (n, rest) => (table.state (state.base + n), rest)

end StateTable

/-- Frequencies being read, last symbol first. -/
structure FrequencyReader where
  data : ByteArray
  position : Nat
  unassigned : Nat
  frequencies : List Int

namespace FrequencyReader

/-- Skip symbols that do not occur: their number comes in steps of at most
three. -/
def skipAbsent : (fuel : Nat) → FrequencyReader → FrequencyReader
  | 0, reader => reader
  | fuel + 1, reader =>
    let times := BackwardBits.slice reader.data reader.position 2
    let next := { reader with
      position := reader.position + 2
      frequencies := List.replicate times 0 ++ reader.frequencies }
    if times = 3 then skipAbsent fuel next else next

/-- Read one frequency. The fewer states are unassigned, the fewer bits it
takes, and small values take one bit less. -/
def readOne (reader : FrequencyReader) : FrequencyReader :=
  let width := (reader.unassigned + 1).log2 + 1
  let half := 1 <<< (width - 1)
  let spare := 2 * half - 1 - (reader.unassigned + 1)
  let low := BackwardBits.slice reader.data reader.position (width - 1)
  let full := BackwardBits.slice reader.data reader.position width
  let value := if low < spare then low else if half ≤ full then full - spare else full
  { reader with
    position := reader.position + (if low < spare then width - 1 else width)
    unassigned := if value = 0 then reader.unassigned - 1 else reader.unassigned - (value - 1)
    frequencies := ((value : Int) - 1) :: reader.frequencies }

/-- Read frequencies until all states are assigned. -/
def readAll (maxSymbols : Nat) : (fuel : Nat) → FrequencyReader → Option FrequencyReader
  | 0, _ => none
  | fuel + 1, reader =>
    if reader.unassigned = 0 then some reader
    else if maxSymbols ≤ reader.frequencies.length then none
    else
      let next := readOne reader
      let absent := next.frequencies.head? = some 0
      readAll maxSymbols fuel (if absent then skipAbsent maxSymbols next else next)

end FrequencyReader

/-- Read a table from the front of data and tell how many bytes it took. -/
def StateTable.read? (maxLog maxSymbols : Nat) (data : ByteArray) : Option (StateTable × Nat) :=
  let log := BackwardBits.slice data 0 4 + 5
  if maxLog < log then none
  else
    (FrequencyReader.readAll maxSymbols (maxSymbols + 1) ⟨data, 4, 1 <<< log, []⟩).bind fun reader =>
      let size := (reader.position + 7) / 8
      if data.size < size ∨ maxSymbols < reader.frequencies.length then none
      else some (.ofFrequencies log reader.frequencies.reverse, size)

end CommandLink.Zstd
