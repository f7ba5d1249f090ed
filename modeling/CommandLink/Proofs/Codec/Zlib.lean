import CommandLink.Proofs.Bytes
import CommandLink.Proofs.Codec.Packing

/-!
# Stored blocks are read back

The plain zlib form of data is a header, stored blocks, and the check value of the data. What a
decompressor has still to read of it is told by an invariant (`Inflater.Reads`) which every step
keeps (`Inflater.Reads.step`), and which a run keeps until the output is longer than its target or
complete (`Inflater.Reads.advance`). So the reader of zlib data always has left what the invariant
says, whichever windows it releases (`Zlib.keeps_reader`), and spells the data out
(`Zlib.spells_compress`).

Bits are read at whole bytes but for the three bits in front of a block. A read of many bits is
split in two (`BitSource.bits?_add`), down to reads within one byte (`BitSource.bits?_within`).
-/

namespace CommandLink

/-! ## Bits -/

namespace BitSource

variable {source : BitSource} {byte : UInt8} {front rest : Bytes}

/-- Bits of one byte are a part of its number. The induction is on how many are read. -/
theorem bits?_within {index : Nat} (hbyte : source.data[index]? = some byte) (count shift : Nat)
    (hcount : shift + count ≤ 8) (hposition : source.position = 8 * index + shift) :
    source.bits? count = some ((byte.toNat >>> shift) % 2 ^ count,
      { source with position := 8 * index + (shift + count) }) := by
  induction count generalizing source shift with
  | zero =>
    obtain ⟨data, position⟩ := source
    cases hposition
    rw [bits?, Nat.pow_zero, Nat.mod_one]
    rfl
  | succ count ih =>
    have hindex : source.position / 8 = index := by omega
    have hplace : source.position % 8 = shift := by omega
    have hbit : source.bit? = some (byte.toNat.testBit shift,
        { source with position := source.position + 1 }) := by
      rw [bit?, hindex, hbyte, hplace]
    have hhigh := @ih { source with position := source.position + 1 } hbyte (shift + 1) (by omega)
      (by rw [hposition]; rfl)
    have hnumber : 2 * ((byte.toNat >>> (shift + 1)) % 2 ^ count) +
        (byte.toNat.testBit shift).toNat = (byte.toNat >>> shift) % 2 ^ (count + 1) := by
      rw [Nat.toNat_testBit, Nat.shiftRight_succ, ← Nat.shiftRight_eq_div_pow, Nat.pow_succ',
        Nat.mod_mul, Nat.add_comm]
    rw [bits?, hbit]
    simp only [hhigh, hnumber, Nat.add_assoc, Nat.add_comm 1 count]

/-- A read is a read of the first bits and one of the others. -/
theorem bits?_add (source : BitSource) (count more : Nat) :
    source.bits? (count + more) =
      (source.bits? count).bind fun (low, next) =>
        (next.bits? more).map fun (high, rest) => (low + 2 ^ count * high, rest) := by
  induction count generalizing source with
  | zero =>
    rw [Nat.zero_add, bits?, Option.bind_some]
    simp only [Nat.pow_zero, Nat.one_mul, Nat.zero_add]
    exact Option.map_id'.symm
  | succ count ih =>
    rw [Nat.succ_add, bits?, bits?]
    cases source.bit? with
    | none => rfl
    | some answer =>
      obtain ⟨bit, next⟩ := answer
      simp only [ih]
      cases next.bits? count with
      | none => rfl
      | some answer =>
        obtain ⟨low, mid⟩ := answer
        simp only [Option.bind_some]
        cases mid.bits? more with
        | none => rfl
        | some answer =>
          simp only [Option.map_some, Option.some.injEq, Prod.mk.injEq, and_true]
          rw [Nat.mul_add, ← Nat.mul_assoc, Nat.pow_succ', Nat.add_right_comm]

/-- The source stands at a whole byte, with these bytes ahead. -/
def Ahead (source : BitSource) (bytes : Bytes) : Prop :=
  ∃ index, source.position = 8 * index ∧ Bytes.ahead source.data index = bytes

theorem Ahead.remaining {bytes : Bytes} (h : source.Ahead bytes) :
    source.remaining = 8 * bytes.length := by
  obtain ⟨index, hposition, rfl⟩ := h
  rw [BitSource.remaining, hposition, Bytes.length_ahead, Nat.mul_sub]

/-- Where bytes in front have been read, fewer bits remain. -/
theorem Ahead.remaining_lt {next : BitSource} (h : source.Ahead (front ++ rest))
    (hnext : next.Ahead rest) (hfront : front ≠ []) : next.remaining < source.remaining := by
  have hpos : 0 < front.length := List.length_pos_iff.mpr hfront
  rw [hnext.remaining, h.remaining, List.length_append]
  omega

theorem Ahead.align {bytes : Bytes} (h : source.Ahead bytes) : source.align = source := by
  obtain ⟨index, hposition, -⟩ := h
  obtain ⟨data, position⟩ := source
  have hwhole : (position + 7) / 8 * 8 = position := by
    dsimp only at hposition
    omega
  rw [BitSource.align, hwhole]

/-- **Whole bytes are read as the number they write.** The induction is on the bytes. -/
theorem Ahead.bits? (h : source.Ahead (front ++ rest)) :
    ∃ next, source.bits? (8 * front.length) = some (Bytes.toNat front, next) ∧
      next.Ahead rest := by
  induction front generalizing source with
  | nil => exact ⟨source, rfl, h⟩
  | cons byte front ih =>
    obtain ⟨index, hposition, hahead⟩ := h
    have hbyte : source.bits? 8 =
        some (byte.toNat, { source with position := 8 * (index + 1) }) := by
      rw [bits?_within (Bytes.getElem?_of_ahead hahead) 8 0 (Nat.le_refl 8) hposition]
      simp only [Nat.shiftRight_zero, Nat.mod_eq_of_lt byte.toNat_lt]
      rfl
    obtain ⟨next, hnext, hrest⟩ := @ih { source with position := 8 * (index + 1) }
      ⟨index + 1, rfl, Bytes.ahead_succ hahead⟩
    refine ⟨next, ?_, hrest⟩
    rw [List.length_cons, Nat.mul_succ, Nat.add_comm, bits?_add, hbyte, Option.bind_some]
    simp only [hnext, Option.map_some, Bytes.toNat, Nat.reducePow]

/-- Some bits of a byte are read, and then the rest of the byte is skipped. -/
theorem Ahead.bits?_align {count : Nat} (h : source.Ahead (byte :: rest)) (hpos : 0 < count)
    (hcount : count ≤ 8) :
    ∃ next, source.bits? count = some (byte.toNat % 2 ^ count, next) ∧ next.align.Ahead rest := by
  obtain ⟨index, hposition, hahead⟩ := h
  refine ⟨_, bits?_within (Bytes.getElem?_of_ahead hahead) count 0 (by omega) hposition,
    index + 1, ?_, Bytes.ahead_succ hahead⟩
  simp only [BitSource.align]
  omega

end BitSource

namespace Zlib

open Deflate Deflate.Inflater

/-! ## The check value -/

/-- The check value fits the four bytes that it is written in. -/
theorem checksum_lt (out : ByteArray) : checksum out < 256 ^ 4 := by
  let step (sums : Nat × Nat) (byte : UInt8) : Nat × Nat :=
    let low := (sums.1 + byte.toNat) % 65521
    (low, (sums.2 + low) % 65521)
  have hkept : ∀ (bytes : Bytes) (sums : Nat × Nat), sums.1 < 65521 → sums.2 < 65521 →
      (bytes.foldl step sums).1 < 65521 ∧ (bytes.foldl step sums).2 < 65521 := by
    intro bytes
    induction bytes with
    | nil => exact fun _ hlow hhigh => ⟨hlow, hhigh⟩
    | cons byte bytes ih =>
      exact fun _ _ _ => ih _ (Nat.mod_lt _ (by decide)) (Nat.mod_lt _ (by decide))
  have hsums : checksum out = 65536 * (out.data.toList.foldl step (1, 0)).2 +
      (out.data.toList.foldl step (1, 0)).1 := by
    rw [Array.foldl_toList]
    rfl
  have hbound := hkept out.data.toList (1, 0) (by decide) (by decide)
  rw [hsums]
  omega

/-- Four bytes are put together highest first. -/
theorem reversed32_bytes {a b c d : Nat} (ha : a < 256) (hb : b < 256) (hc : c < 256) :
    reversed32 (a + 256 * (b + 256 * (c + 256 * d))) =
      a * 16777216 + b * 65536 + c * 256 + d := by
  have hsecond : (a + 256 * (b + 256 * (c + 256 * d))) / 256 = b + 256 * (c + 256 * d) := by omega
  have hthird : (b + 256 * (c + 256 * d)) / 256 = c + 256 * d := by omega
  have hfourth : (c + 256 * d) / 256 = d := by omega
  have hplaces (n : Nat) : n / 2 ^ 16 = n / 256 / 256 ∧ n / 2 ^ 24 = n / 256 / 256 / 256 := by
    simp only [Nat.div_div_eq_div_mul, Nat.reduceMul, Nat.reducePow, and_self]
  simp only [reversed32, Nat.shiftLeft_eq, Nat.shiftRight_eq_div_pow, hplaces]
  simp only [Nat.reducePow, hsecond, hthird, hfourth]
  omega

/-- A number that was written highest byte first is read back. -/
theorem reversed32_reverse {n : Nat} (h : n < 256 ^ 4) :
    reversed32 (Bytes.toNat (Bytes.ofNat 4 n).reverse) = n := by
  have hbytes : Bytes.toNat (Bytes.ofNat 4 n).reverse =
      n / 256 / 256 / 256 % 256 +
        256 * (n / 256 / 256 % 256 + 256 * (n / 256 % 256 + 256 * (n % 256))) := by
    simp only [Bytes.ofNat, List.reverse_cons, List.reverse_nil, List.nil_append,
      List.cons_append, Bytes.toNat, UInt8.toNat_ofNat', Nat.mul_zero, Nat.add_zero]
  have hlow (m : Nat) : m % 256 < 256 := Nat.mod_lt m (by decide)
  rw [hbytes, reversed32_bytes (hlow _) (hlow _) (hlow _)]
  omega

/-- The check value of data as it is written. -/
def trailer (data : Bytes) : Bytes := (Bytes.ofNat 4 (checksum ⟨data.toArray⟩)).reverse

/-! ## What is still to be read -/

/-- The blocks behind one, if it is not the last. -/
def blocksAfter (fuel : Nat) (rest : Bytes) : Bytes :=
  if rest = [] then [] else storedBlocks fuel rest

theorem storedBlocks_succ (fuel : Nat) (data : Bytes) :
    storedBlocks (fuel + 1) data =
      (if data.drop 65535 = [] then 1 else 0) :: (Bytes.ofNat 2 (data.take 65535).length ++
        Bytes.ofNat 2 (65535 - (data.take 65535).length)) ++ data.take 65535 ++
        blocksAfter fuel (data.drop 65535) := rfl

/-- What a decompressor has still to read of the plain form of data, and what it has put out. -/
inductive Reads (data : Bytes) : Inflater → Prop where
  | header {source} : source.Ahead (compress data) → Reads data ⟨source, .empty, .header⟩
  | block {source out rest fuel} : out.data.toList ++ rest = data → rest.length < fuel →
    source.Ahead (storedBlocks fuel rest ++ trailer data) → Reads data ⟨source, out, .block⟩
  | stored {source out part rest fuel} : part ≠ [] → out.data.toList ++ (part ++ rest) = data →
    (rest ≠ [] → rest.length < fuel) →
    source.Ahead (part ++ (blocksAfter fuel rest ++ trailer data)) →
    Reads data ⟨source, out, .stored part.length (decide (rest = []))⟩
  | trailer {source out} : out.data.toList = data → source.Ahead (trailer data) →
    Reads data ⟨source, out, .trailer⟩
  | finished {source out} : out.data.toList = data → Reads data ⟨source, out, .finished⟩

variable {data : Bytes} {inflater : Inflater}

/-- What has been put out is the front of the data. -/
theorem Reads.exists_append (h : Reads data inflater) :
    ∃ rest, inflater.out.data.toList ++ rest = data := by
  cases h with
  | header => exact ⟨data, rfl⟩
  | block hout => exact ⟨_, hout⟩
  | stored _ hout => exact ⟨_, hout⟩
  | trailer hout => exact ⟨[], by rw [List.append_nil, hout]⟩
  | finished hout => exact ⟨[], by rw [List.append_nil, hout]⟩

/-- Behind a block comes the next one, or the check value. -/
theorem Reads.afterBlock {source : BitSource} {out : ByteArray} {rest : Bytes} {fuel : Nat}
    (hout : out.data.toList ++ rest = data) (hfuel : rest ≠ [] → rest.length < fuel)
    (hahead : source.Ahead (blocksAfter fuel rest ++ Zlib.trailer data)) :
    Reads data ⟨source, out, Inflater.afterBlock (decide (rest = []))⟩ := by
  unfold blocksAfter at hahead
  by_cases hrest : rest = []
  · rw [if_pos hrest] at hahead
    rw [Inflater.afterBlock, decide_eq_true hrest]
    exact .trailer (by rw [← hout, hrest, List.append_nil]) hahead
  · rw [if_neg hrest] at hahead
    rw [Inflater.afterBlock, decide_eq_false hrest]
    exact .block hout (hfuel hrest) hahead

/-! ## One step -/

/-- The front of a stored block is read as its length and whether it is the last. -/
theorem openBlock_stored {source : BitSource} {length : Nat} {last : Prop} [Decidable last]
    {rest : Bytes} (hlength : length ≤ 65535)
    (hahead : source.Ahead ((if last then 1 else 0) ::
      (Bytes.ofNat 2 length ++ Bytes.ofNat 2 (65535 - length)) ++ rest)) :
    ∃ next, openBlock source = .ok (if length = 0 then Inflater.afterBlock (decide last)
        else .stored length (decide last), next) ∧ next.Ahead rest := by
  obtain ⟨flagged, hbits, hflagged⟩ := hahead.bits?_align (by decide) (show 3 ≤ 8 by decide)
  obtain ⟨next, hsizes, hnext⟩ := hflagged.bits?
  have hcount : 8 * (Bytes.ofNat 2 length ++ Bytes.ofNat 2 (65535 - length)).length = 32 := by
    rw [List.length_append, Bytes.length_ofNat, Bytes.length_ofNat]
  have hnumber : Bytes.toNat (Bytes.ofNat 2 length ++ Bytes.ofNat 2 (65535 - length)) =
      length + 65536 * (65535 - length) := by
    rw [Bytes.toNat_append, Bytes.toNat_ofNat, Bytes.toNat_ofNat, Bytes.length_ofNat]
    omega
  rw [hcount, hnumber] at hsizes
  have hlow : (length + 65536 * (65535 - length)) % 65536 = length := by omega
  have hhigh : (length + 65536 * (65535 - length)) / 65536 = 65535 - length := by omega
  obtain ⟨bit, hbit, hstored, hflag⟩ : ∃ bit, source.bits? 3 = some (bit, flagged) ∧
      bit / 2 = 0 ∧ (bit % 2 = 1 ↔ last) := by
    refine ⟨_, hbits, ?_⟩
    by_cases hlast : last <;> simp [hlast]
  refine ⟨next, ?_, hnext⟩
  rw [openBlock, hbit]
  simp only [hstored, hsizes, hlow, hhigh, hflag, if_true, ne_eq, not_true_eq_false, if_false]
  split <;> rfl

/-- **Every step keeps what is still to be read**, and takes some of it. -/
theorem Reads.step (h : Reads data inflater) (hphase : inflater.phase ≠ .finished) :
    ∃ next, inflater.step = (next, none) ∧ Reads data next ∧
      next.source.remaining < inflater.source.remaining := by
  cases h with
  | @header source hahead =>
    have hfront : compress data = [0x78, 0x01] ++
        (storedBlocks (data.length + 1) data ++ Zlib.trailer data) := List.append_assoc _ _ _
    rw [hfront] at hahead
    obtain ⟨next, hbits, hnext⟩ := hahead.bits?
    have hbits : source.bits? 16 = some (376, next) := hbits
    refine ⟨⟨next, .empty, .block⟩, ?_, .block rfl (Nat.lt_succ_self _) hnext,
      hahead.remaining_lt hnext (List.cons_ne_nil _ _)⟩
    simp only [Inflater.step, hbits]
    rfl
  | @block source out rest fuel hout hfuel hahead =>
    obtain ⟨fuel, rfl⟩ := Nat.exists_eq_succ_of_ne_zero (Nat.ne_zero_of_lt hfuel)
    rw [storedBlocks_succ, List.append_assoc, List.append_assoc] at hahead
    have hparts : out.data.toList ++ (rest.take 65535 ++ rest.drop 65535) = data := by
      rw [List.take_append_drop, hout]
    have hpart : (rest.take 65535).length ≤ 65535 := List.length_take_le _ _
    have hfewer : rest.drop 65535 ≠ [] → (rest.drop 65535).length < fuel :=
      Bytes.length_drop_lt (by decide) hfuel
    generalize rest.take 65535 = part at *
    generalize rest.drop 65535 = others at *
    obtain ⟨next, hopen, hnext⟩ := openBlock_stored hpart hahead
    have hless := hahead.remaining_lt hnext (List.cons_ne_nil _ _)
    by_cases hempty : part = []
    · subst hempty
      refine ⟨⟨next, out, Inflater.afterBlock (decide (others = []))⟩, ?_,
        .afterBlock hparts hfewer hnext, hless⟩
      simp only [Inflater.step, hopen, List.length_nil, if_pos]
    · have hlength : part.length ≠ 0 := fun h => hempty (List.eq_nil_of_length_eq_zero h)
      refine ⟨⟨next, out, .stored part.length (decide (others = []))⟩, ?_,
        .stored hempty hparts hfewer hnext, hless⟩
      simp only [Inflater.step, hopen, if_neg hlength]
  | @stored source out part rest fuel hpart hout hfuel hahead =>
    obtain ⟨index, hposition, hindex⟩ := hahead
    have hlength : part.length ≠ 0 := fun h => hpart (List.eq_nil_of_length_eq_zero h)
    have hoffset : source.position / 8 = index := by omega
    have hcount : min part.length (source.data.size - index) = part.length :=
      Nat.min_eq_left (Bytes.length_le_of_ahead hindex)
    have hnext : BitSource.Ahead { source with position := 8 * (index + part.length) }
        (blocksAfter fuel rest ++ Zlib.trailer data) :=
      ⟨index + part.length, rfl, Bytes.ahead_add_length hindex⟩
    refine ⟨⟨{ source with position := 8 * (index + part.length) },
        Bytes.appendSlice source.data index part.length out,
        Inflater.afterBlock (decide (rest = []))⟩,
      ?_, .afterBlock ?_ hfuel hnext,
      BitSource.Ahead.remaining_lt ⟨index, hposition, hindex⟩ hnext hpart⟩
    · simp only [Inflater.step, hoffset, hcount, if_neg hlength, if_pos]
    · rw [Bytes.toList_appendSlice hindex, List.append_assoc, hout]
  | @trailer source out hout hahead =>
    have hdata : out = ⟨data.toArray⟩ := by
      subst hout
      rfl
    have hlength : (Zlib.trailer data).length = 4 := by
      rw [Zlib.trailer, List.length_reverse, Bytes.length_ofNat]
    have hwhole : source.Ahead (Zlib.trailer data ++ []) := by rwa [List.append_nil]
    obtain ⟨next, hbits, hnext⟩ := hwhole.bits?
    have hbits : source.bits? 32 = some (Bytes.toNat (Zlib.trailer data), next) := hbits
    have hcheck : reversed32 (Bytes.toNat (Zlib.trailer data)) = checksum out := by
      rw [hdata]
      exact reversed32_reverse (checksum_lt _)
    refine ⟨⟨next, out, .finished⟩, ?_, .finished hout, hwhole.remaining_lt hnext ?_⟩
    · simp only [Inflater.step, hahead.align, hbits, if_pos hcheck]
    · exact List.ne_nil_of_length_pos (Nat.lt_of_lt_of_eq (by decide) hlength.symm)
  | finished => exact absurd rfl hphase

/-! ## A run -/

/-- **A run keeps what is still to be read**, and ends when the output is longer than the target or
all of the data is put out. The induction is on the fuel, which the bits that remain are below. -/
theorem Reads.advance (h : Reads data inflater) (target : Nat) {fuel : Nat}
    (hfuel : inflater.source.remaining < fuel) :
    ∃ next, inflater.advance target fuel = (next, none) ∧ Reads data next ∧
      (target < next.out.size ∨ next.out.data.toList = data) := by
  induction fuel generalizing inflater with
  | zero => exact absurd hfuel (Nat.not_lt_zero _)
  | succ fuel ih =>
    by_cases hfinished : inflater.phase = .finished
    · obtain ⟨source, out, phase⟩ := inflater
      cases hfinished
      cases h with
      | finished hout => exact ⟨_, rfl, .finished hout, .inr hout⟩
    · obtain ⟨next, hstep, hnext, hless⟩ := h.step hfinished
      have hadvance : inflater.advance target (fuel + 1) =
          if target < inflater.out.size then (inflater, none) else next.advance target fuel := by
        obtain ⟨source, out, phase⟩ := inflater
        cases phase with
        | finished => exact absurd rfl hfinished
        | _ => simp only [advance, hstep]
      rw [hadvance]
      by_cases hlong : target < inflater.out.size
      · exact ⟨inflater, if_pos hlong, h, .inl hlong⟩
      · rw [if_neg hlong]
        exact ih hnext (by omega)

/-! ## The reader -/

/-- What is left to give of some data: what has been released and not given, and what is still to
be read. -/
structure Leaves (data rest : Bytes) (state : State) : Prop where
  reads : Reads data state.inflater
  given_le : state.given ≤ state.released
  released_le : state.released ≤ state.inflater.out.size
  rest_eq : rest = data.drop state.given

/-- Bytes that are released are given, as many as are asked for or there are. -/
theorem Leaves.give {rest : Bytes} {state : State} (h : Leaves data rest state) (room : Nat) :
    ∃ later, rest = (give room state).1 ++ later ∧ (Zlib.give room state).1.length ≤ room ∧
      Leaves data later (Zlib.give room state).2 ∧
      ((Zlib.give room state).1 = [] → room = 0 ∨ state.given = state.released) := by
  obtain ⟨more, hmore⟩ := h.reads.exists_append
  have hgiven := h.given_le
  have hreleased := h.released_le
  let upto := min state.released (state.given + room)
  obtain ⟨hbytes, hlength⟩ := Bytes.drop_eq_extract_append hmore
    (show state.given ≤ upto by omega) (show upto ≤ state.inflater.out.size by omega)
  refine ⟨data.drop upto, h.rest_eq.trans hbytes, ?_, ⟨h.reads, ?_, hreleased, rfl⟩, ?_⟩
  · rw [show (Zlib.give room state).1.length = upto - state.given from hlength]
    omega
  · exact Nat.min_le_left _ _
  · intro hnone
    rw [show (Zlib.give room state).1 =
      (state.inflater.out.extract state.given upto).data.toList from rfl] at hnone
    rw [hnone] at hlength
    have : upto - state.given = 0 := hlength.symm
    omega

/-- **The reader keeps what is left.** It gives what is released, or releases a window and gives
from that, until the data is used up. -/
theorem keeps_reader (data : Bytes) : reader.Keeps (Leaves data) := by
  intro room state rest hroom hleaves
  show ∃ bytes later next, read room state = .ok (bytes, next) ∧ _
  unfold read
  by_cases hpending : state.given < state.released
  · rw [if_pos hpending]
    obtain ⟨later, hrest, hlength, hlater, hnone⟩ := hleaves.give room
    refine ⟨_, later, _, rfl, hrest, hlength, hlater, fun hbytes => ?_⟩
    have := hnone hbytes
    omega
  · rw [if_neg hpending]
    have htarget : state.released < (state.released / windowSize + 1) * windowSize := by
      rw [windowSize]
      omega
    generalize (state.released / windowSize + 1) * windowSize = target at htarget ⊢
    obtain ⟨inflater, hadvance, hreads, hends⟩ :=
      hleaves.reads.advance target (Nat.lt_succ_self state.inflater.source.remaining)
    have hgiven : state.given = state.released :=
      Nat.le_antisymm hleaves.given_le (Nat.not_lt.mp hpending)
    simp only [hadvance]
    by_cases hmore : state.released < min inflater.out.size target
    · have hopened : Leaves data rest ⟨inflater, min inflater.out.size target, state.given⟩ :=
        ⟨hreads, hgiven ▸ Nat.le_of_lt hmore, Nat.min_le_left _ _, hleaves.rest_eq⟩
      obtain ⟨later, hrest, hlength, hlater, hnone⟩ := hopened.give room
      rw [if_pos hmore]
      refine ⟨_, later, _, rfl, hrest, hlength, hlater, fun hbytes => ?_⟩
      have hended : room = 0 ∨ state.given = min inflater.out.size target := hnone hbytes
      omega
    · -- nothing more comes, so all of the data has been given
      have hout : inflater.out.data.toList = data := hends.resolve_left (by omega)
      have hsize : inflater.out.size = data.length := by
        rw [← hout]
        rfl
      have hreleased : state.released ≤ data.length := by
        obtain ⟨unread, hfront⟩ := hleaves.reads.exists_append
        rw [← hfront, List.length_append]
        exact Nat.le_trans hleaves.released_le (Nat.le_add_right _ _)
      have hrest : rest = [] := by
        rw [hleaves.rest_eq, List.drop_eq_nil_iff]
        omega
      rw [if_neg hmore]
      refine ⟨[], [], _, rfl, hrest, Nat.zero_le _, ⟨hreads, ?_, Nat.min_le_left _ _, ?_⟩,
        fun _ => hrest⟩
      · show state.given ≤ min inflater.out.size target
        omega
      · exact hrest.symm.trans hleaves.rest_eq

/-- **The plain zlib form of data spells it out.** -/
theorem spells_compress (data : Bytes) :
    Source.Spells ⟨reader, start (compress data)⟩ data := by
  refine Reader.Keeps.spells (keeps_reader data) ⟨.header ?_, Nat.le_refl _, Nat.zero_le _, rfl⟩
  exact ⟨0, rfl, rfl⟩

end Zlib

end CommandLink
