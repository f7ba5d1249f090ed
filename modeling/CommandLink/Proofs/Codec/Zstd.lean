import CommandLink.Proofs.Bytes
import CommandLink.Proofs.Codec.Packing

/-!
# Raw blocks are read back

The plain zstd form of data is one frame of raw blocks. What a decompressor has still to read of it
is told by an invariant (`State.Reads`) which every step keeps (`State.Reads.step`), and so does a
run until the room is filled or the frame has ended (`State.Reads.produce`). So the reader of zstd
data always has left what the invariant says (`keeps_reader`), and spells the data out
(`spells_compress`).

Whether the frame is decompressed in one go or block by block makes no difference here: the frame is
entered with either, and its header bounds the output the same way.
-/

namespace CommandLink.Zstd

variable {data : Bytes}

/-! ## Numbers and slices of the input -/

/-- Bytes ahead are read as the number that they write. -/
theorem number_of_ahead {input : ByteArray} {offset : Nat} {front rest : Bytes}
    (hahead : Bytes.ahead input offset = front ++ rest) :
    BackwardBits.number input offset front.length = Bytes.toNat front := by
  induction front generalizing offset with
  | nil => rfl
  | cons byte front ih =>
    rw [List.length_cons, BackwardBits.number, Bytes.getElem?_of_ahead hahead, Option.getD_some,
      ih (Bytes.ahead_succ hahead), Bytes.toNat]

/-! ## The frame -/

/-- The header of the plain form: the size of the data, and a window of one block. -/
def plainHeader (size : Nat) : FrameHeader := ⟨some size, 128 * 1024, false, 10⟩

/-- The header is read as it was written, if the size of the data fits its field. -/
theorem readHeader_plain {input : ByteArray} {available : Nat}
    (hlength : data.length < UInt32.size) (havailable : 10 ≤ available)
    (hdescriptor : BackwardBits.number input 4 1 = 0x80)
    (hwindow : BackwardBits.number input 5 1 = 56)
    (hcontent : BackwardBits.number input 6 4 = data.length) :
    readHeader input 0 available = .ok (plainHeader data.length) := by
  have htold : data.length ≠ 18446744073709551615 :=
    Nat.ne_of_lt (Nat.lt_trans hlength (by decide))
  have hnone : BackwardBits.number input 6 0 = 0 := rfl
  have hshort : ¬ available < 10 := Nat.not_lt.mpr havailable
  simp only [readHeader, Nat.zero_add, hdescriptor, hwindow]
  simp [hshort, htold, hnone, hcontent, plainHeader]

/-- So is the start of the frame. -/
theorem readStart_plain (hlength : data.length < UInt32.size) :
    readStart ⟨(compress data).toArray⟩ 0 = .ok (.content (plainHeader data.length)) := by
  let input : ByteArray := ⟨(compress data).toArray⟩
  let blocks := rawBlocks (data.length + 1) data
  have hmark : Bytes.ahead input 0 = Bytes.ofNat 4 contentMark ++
      ([0x80] ++ ([56] ++ (Bytes.ofNat 4 data.length ++ blocks))) := by
    simp only [Bytes.ahead, input, compress, List.drop_zero, List.append_assoc, List.cons_append,
      List.nil_append, blocks]
  have hdescriptor : Bytes.ahead input 4 = [0x80] ++ ([56] ++
      (Bytes.ofNat 4 data.length ++ blocks)) := Bytes.ahead_add_length hmark
  have hwindow : Bytes.ahead input 5 = [56] ++ (Bytes.ofNat 4 data.length ++ blocks) :=
    Bytes.ahead_add_length hdescriptor
  have hcontent : Bytes.ahead input 6 = Bytes.ofNat 4 data.length ++ blocks :=
    Bytes.ahead_add_length hwindow
  have hsize : 10 ≤ input.size - 0 := by
    rw [← Bytes.length_ahead, hmark]
    simp only [List.length_append, Bytes.length_ofNat, List.length_cons, List.length_nil]
    omega
  have hnumber := number_of_ahead hcontent
  rw [Bytes.toNat_ofNat, Bytes.length_ofNat, Nat.mod_eq_of_lt (show _ < 256 ^ 4 from hlength)]
    at hnumber
  have hheader := readHeader_plain hlength hsize (number_of_ahead hdescriptor)
    (number_of_ahead hwindow) hnumber
  have hfirst : BackwardBits.number input 0 4 = contentMark := number_of_ahead hmark
  have hother : ¬ contentMark / 16 * 16 = skippedMark := by decide
  rw [show (⟨(compress data).toArray⟩ : ByteArray) = input from rfl, readStart]
  simp only [hfirst, if_neg hother, hheader, ne_eq, not_true_eq_false, if_false]
  rw [if_neg (by omega)]
  rfl

/-- Output that is a front of the data agrees with the size that the frame tells. -/
theorem agrees_plain {frame : Frame} (hframe : frame.header = plainHeader data.length)
    {out : ByteArray} {rest : Bytes} (hout : out.data.toList ++ rest = data) (empty : Bool) :
    State.agrees frame (decide (rest = [])) empty out.size = true := by
  have hsize : out.size + rest.length = data.length := by
    rw [← hout, List.length_append]
    rfl
  have hbound : (State.bound? frame).all (out.size ≤ ·) = true := by
    have hle : out.size ≤ data.length := by omega
    unfold State.bound? FrameHeader.roomBound?
    rw [hframe, plainHeader]
    split
    · exact decide_eq_true hle
    · rw [Option.filter_some]
      split
      · exact decide_eq_true hle
      · rfl
  rw [State.agrees, hbound, Bool.true_and, hframe]
  by_cases hrest : rest = []
  · have htold : out.size = data.length := by rw [← hsize, hrest]; rfl
    simp [htold, plainHeader]
  · simp [hrest]

/-- The front of a raw block is read as whether it is the last, and its size. -/
theorem BlockHeader.read_of_ahead {input : ByteArray} {offset size : Nat} {last : Prop}
    [Decidable last] {rest : Bytes} (hsize : size ≤ 128 * 1024)
    (hahead : Bytes.ahead input offset =
      Bytes.ofNat 3 (8 * size + if last then 1 else 0) ++ rest) :
    BlockHeader.read input offset = ⟨decide last, 0, size⟩ := by
  obtain ⟨bit, hbit, hlast⟩ : ∃ bit, (if last then 1 else 0) = bit ∧ (bit = 1 ↔ last) := by
    by_cases hlast : last <;> simp [hlast]
  have hsmall : bit ≤ 1 := by
    rw [← hbit]
    split <;> decide
  rw [hbit] at hahead
  have hnumber := number_of_ahead hahead
  rw [Bytes.length_ofNat, Bytes.toNat_ofNat, Nat.mod_eq_of_lt (by omega)] at hnumber
  have hflag : (8 * size + bit) % 2 = bit := by omega
  have hkind : (8 * size + bit) / 2 % 4 = 0 := by omega
  have hcount : (8 * size + bit) / 8 = size := by omega
  simp only [BlockHeader.read, hnumber, hflag, hkind, hcount, hlast]

/-! ## What is still to be read -/

/-- The blocks behind one, if it is not the last. -/
def blocksAfter (fuel : Nat) (rest : Bytes) : Bytes :=
  if rest = [] then [] else rawBlocks fuel rest

theorem rawBlocks_succ (fuel : Nat) (data : Bytes) :
    rawBlocks (fuel + 1) data =
      Bytes.ofNat 3 (8 * (data.take (128 * 1024)).length +
        if data.drop (128 * 1024) = [] then 1 else 0) ++ (data.take (128 * 1024) ++
        blocksAfter fuel (data.drop (128 * 1024))) := List.append_assoc _ _ _

namespace State

/-- What a decompressor has still to read of the plain form of data, and what it has put out. -/
inductive Reads (data : Bytes) : State → Prop where
  | start : Reads data (.start (compress data))
  | block {input position frame memory out given rest fuel} :
    frame.header = plainHeader data.length → out.data.toList ++ rest = data → rest.length < fuel →
    Bytes.ahead input position = rawBlocks fuel rest → given ≤ out.size →
    Reads data ⟨input, position, .block frame memory, out, given⟩
  | copied {input position frame memory out given part rest fuel} :
    frame.header = plainHeader data.length → part ≠ [] → out.data.toList ++ (part ++ rest) = data →
    (rest ≠ [] → rest.length < fuel) →
    Bytes.ahead input position = part ++ blocksAfter fuel rest → given ≤ out.size →
    Reads data ⟨input, position, .copied frame memory part.length (decide (rest = [])), out, given⟩
  | finished {input position out given} : out.data.toList = data →
    Bytes.ahead input position = [] → given ≤ out.size →
    Reads data ⟨input, position, .between true, out, given⟩

variable {state : State}

/-- What has been put out is the front of the data. -/
theorem Reads.exists_append (h : Reads data state) :
    ∃ rest, state.out.data.toList ++ rest = data := by
  cases h with
  | start => exact ⟨data, rfl⟩
  | block _ hout => exact ⟨_, hout⟩
  | copied _ _ hout => exact ⟨_, hout⟩
  | finished hout => exact ⟨[], by rw [List.append_nil, hout]⟩

/-- No more has been given than was put out. -/
theorem Reads.given_le (h : Reads data state) : state.given ≤ state.out.size := by
  cases h with
  | start => exact Nat.zero_le _
  | block _ _ _ _ hgiven => exact hgiven
  | copied _ _ _ _ _ hgiven => exact hgiven
  | finished _ _ hgiven => exact hgiven

/-- Behind the frame nothing is left of the input, and all of the data is put out. -/
theorem Reads.ended (h : Reads data state) (hbetween : produce.betweenFrames state = some true) :
    state.data.size ≤ state.position ∧ state.out.data.toList = data := by
  cases h with
  | start => cases hbetween
  | block => cases hbetween
  | copied => cases hbetween
  | finished hout hahead =>
    refine ⟨Nat.le_of_sub_eq_zero ?_, hout⟩
    rw [← Bytes.length_ahead, hahead, List.length_nil]

/-- What has been put out can be given, or not, at any time. -/
theorem Reads.setGiven (h : Reads data state) {given : Nat} (hgiven : given ≤ state.out.size) :
    Reads data { state with given } := by
  cases h with
  | start =>
    cases Nat.le_zero.mp hgiven
    exact .start
  | block hframe hout hfuel hahead => exact .block hframe hout hfuel hahead hgiven
  | copied hframe hpart hout hfuel hahead => exact .copied hframe hpart hout hfuel hahead hgiven
  | finished hout hahead => exact .finished hout hahead hgiven

/-- Behind a block comes the next one, or the end. -/
theorem Reads.afterBlock {input : ByteArray} {position given fuel : Nat} {frame : Frame}
    {out : ByteArray} {rest : Bytes} (hframe : frame.header = plainHeader data.length)
    (hout : out.data.toList ++ rest = data) (hfuel : rest ≠ [] → rest.length < fuel)
    (hahead : Bytes.ahead input position = blocksAfter fuel rest) (hgiven : given ≤ out.size)
    (memory : Memory) :
    Reads data
      ⟨input, position, State.afterBlock frame memory (decide (rest = [])), out, given⟩ := by
  unfold blocksAfter at hahead
  by_cases hrest : rest = []
  · have hdata : out.data.toList = data := by rw [← hout, hrest, List.append_nil]
    rw [if_pos hrest] at hahead
    rw [decide_eq_true hrest, State.afterBlock, hframe]
    exact .finished hdata hahead hgiven
  · rw [if_neg hrest] at hahead
    rw [decide_eq_false hrest]
    exact .block hframe hout (hfuel hrest) hahead hgiven

/-! ## One step -/

/-- How much of the input is still to be read. -/
def unread (state : State) : Nat := state.data.size - state.position

/-- Where bytes in front have been read, less of the input is unread. -/
theorem unread_lt {next : State} {front rest : Bytes} (hfront : front ≠ [])
    (hahead : Bytes.ahead state.data state.position = front ++ rest)
    (hnext : Bytes.ahead next.data next.position = rest) : next.unread < state.unread := by
  have hpos : 0 < front.length := List.length_pos_iff.mpr hfront
  rw [unread, unread, ← Bytes.length_ahead, ← Bytes.length_ahead, hahead, hnext,
    List.length_append]
  omega

/-- The frame is entered, in one go or block by block. -/
theorem enter_plain (hlength : data.length < UInt32.size) (room : Nat) :
    ∃ next, step room (.start (compress data)) = .ok next ∧ Reads data next ∧
      next.given = 0 ∧ next.unread < (State.start (compress data)).unread := by
  let input : ByteArray := ⟨(compress data).toArray⟩
  have hwhole : Bytes.ahead input 0 = (Bytes.ofNat 4 contentMark ++ [0x80, 56] ++
      Bytes.ofNat 4 data.length) ++ rawBlocks (data.length + 1) data := rfl
  have hblocks : Bytes.ahead input 10 = rawBlocks (data.length + 1) data :=
    Bytes.ahead_add_length hwhole
  obtain ⟨atOnce, hstep⟩ : ∃ atOnce, step room (.start (compress data)) =
      .ok ⟨input, 10, .block ⟨plainHeader data.length, atOnce⟩ .initial, .empty, 0⟩ := by
    have hwindow : ¬ FrameHeader.maxWindow < 128 * 1024 := by decide
    refine ⟨decide (data.length ≤ room) && isComplete false input (input.size + 1) 10, ?_⟩
    rw [State.start, step, enter, readStart_plain hlength]
    simp only [plainHeader, hwindow, and_false, if_false]
    rfl
  exact ⟨_, hstep, .block rfl rfl (Nat.lt_succ_self _) hblocks (Nat.le_refl 0), rfl,
    unread_lt (List.append_ne_nil_of_left_ne_nil (List.cons_ne_nil _ _) _) hwhole hblocks⟩

/-- The front of a raw block is read. -/
theorem nextBlock_plain {input : ByteArray} {position given fuel : Nat} {frame : Frame}
    {out : ByteArray} {part rest : Bytes} (hframe : frame.header = plainHeader data.length)
    (hout : out.data.toList ++ (part ++ rest) = data) (hfuel : rest ≠ [] → rest.length < fuel)
    (hpart : part.length ≤ 128 * 1024) (hempty : part = [] → rest = [])
    (hahead : Bytes.ahead input position =
      Bytes.ofNat 3 (8 * part.length + if rest = [] then 1 else 0) ++
        (part ++ blocksAfter fuel rest))
    (hgiven : given ≤ out.size) (memory : Memory) (stage : Stage) :
    ∃ next, nextBlock frame memory ⟨input, position, stage, out, given⟩ = .ok next ∧
      Reads data next ∧ next.given = given ∧ next.data = input ∧ next.position = position + 3 := by
  have hbehind : Bytes.ahead input (position + 3) = part ++ blocksAfter fuel rest :=
    Bytes.ahead_add_length hahead
  have hheld : ¬ input.size < position + 3 := by
    have hthree := Bytes.length_le_of_ahead hahead
    rw [Bytes.length_ofNat] at hthree
    omega
  have hheader := BlockHeader.read_of_ahead hpart hahead
  have hstored : BlockHeader.stored ⟨decide (rest = []), 0, part.length⟩ = part.length := rfl
  have hlimit : ¬ frame.header.blockLimit < part.length := by
    rw [hframe]
    exact Nat.not_lt.mpr hpart
  have hsound : ¬ (0 = 3 ∨ (!frame.atOnce) = true ∧ False) := by simp
  simp only [nextBlock, if_neg hheld, hheader, hstored, hlimit, if_neg hsound]
  by_cases hnone : part = []
  · subst hnone
    have hagrees : agrees frame (decide (rest = [])) true out.size = true :=
      agrees_plain hframe hout true
    have hskipped : ([] : Bytes).length = 0 ∧ ¬ (0 = 2 ∧ frame.atOnce = true) := by simp
    rw [if_pos hskipped, if_pos hagrees]
    exact ⟨_, rfl, .afterBlock hframe hout hfuel hbehind hgiven memory, rfl, rfl, rfl⟩
  · have hlength : part.length ≠ 0 := fun h => hnone (List.eq_nil_of_length_eq_zero h)
    rw [if_neg fun h => hlength h.1, if_pos trivial]
    exact ⟨_, rfl, .copied hframe hnone hout hfuel hbehind hgiven, rfl, rfl, rfl⟩

/-- **Every step keeps what is still to be read**, and takes some of it. -/
theorem Reads.step (h : Reads data state) (hlength : data.length < UInt32.size) (room : Nat)
    (hunfinished : produce.betweenFrames state ≠ some true) :
    ∃ next, State.step room state = .ok next ∧ Reads data next ∧ next.given = state.given ∧
      next.unread < state.unread := by
  cases h with
  | start => exact enter_plain hlength room
  | @block input position frame memory out given rest fuel hframe hout hfuel hahead hgiven =>
    obtain ⟨fuel, rfl⟩ := Nat.exists_eq_succ_of_ne_zero (Nat.ne_zero_of_lt hfuel)
    rw [rawBlocks_succ] at hahead
    have hparts : out.data.toList ++ (rest.take (128 * 1024) ++ rest.drop (128 * 1024)) = data := by
      rw [List.take_append_drop, hout]
    have hfewer : rest.drop (128 * 1024) ≠ [] → (rest.drop (128 * 1024)).length < fuel :=
      Bytes.length_drop_lt (by decide) hfuel
    have hempty : rest.take (128 * 1024) = [] → rest.drop (128 * 1024) = [] := by
      intro hnone
      rw [List.take_eq_nil_iff] at hnone
      rw [hnone.resolve_left (by decide), List.drop_nil]
    obtain ⟨next, hnext, hreads, hkept, hdata, hposition⟩ := nextBlock_plain hframe hparts hfewer
      (List.length_take_le _ _) hempty hahead hgiven memory (.between false)
    refine ⟨next, hnext, hreads, hkept, unread_lt (List.cons_ne_nil _ _) hahead ?_⟩
    rw [hdata, hposition]
    exact Bytes.ahead_add_length hahead
  | @copied input position frame memory out given part rest fuel hframe hpart hout hfuel hahead
      hgiven =>
    have hlength : part.length ≠ 0 := fun h => hpart (List.eq_nil_of_length_eq_zero h)
    have hcount : min part.length (input.size - position) = part.length :=
      Nat.min_eq_left (Bytes.length_le_of_ahead hahead)
    have hbehind := Bytes.ahead_add_length hahead
    let copied := Bytes.appendSlice input position part.length out
    have hcopied : copied.data.toList = out.data.toList ++ part :=
      Bytes.toList_appendSlice hahead out
    have hfront : copied.data.toList ++ rest = data := by rw [hcopied, List.append_assoc, hout]
    have hsize : given ≤ copied.size := by
      have hlonger := congrArg List.length hcopied
      rw [List.length_append] at hlonger
      exact Nat.le_trans hgiven (Nat.le_of_add_right_le (Nat.le_of_eq hlonger.symm))
    have hagrees := agrees_plain hframe hfront false
    refine ⟨_, ?_, .afterBlock hframe hfront hfuel hbehind hsize memory, rfl,
      unread_lt hpart hahead hbehind⟩
    simp only [State.step, hcount, if_neg hlength, Nat.lt_irrefl, if_false, decide_true,
      Bool.and_true]
    exact if_pos hagrees
  | finished => exact absurd rfl hunfinished

/-! ## A run -/

/-- What is put out can be given, as much as there is room for. -/
theorem Reads.give (h : Reads data state) (room : Nat) :
    data.drop state.given = (State.give room state).1 ++ data.drop (State.give room state).2.given ∧
      (State.give room state).1.length = (State.give room state).2.given - state.given ∧
      Reads data (State.give room state).2 := by
  obtain ⟨more, hmore⟩ := h.exists_append
  have hgiven := h.given_le
  obtain ⟨hbytes, hlength⟩ := Bytes.drop_eq_extract_append hmore
    (show state.given ≤ min state.out.size (state.given + room) by omega) (Nat.min_le_left _ _)
  exact ⟨hbytes, hlength, h.setGiven (Nat.min_le_left _ _)⟩

theorem given_give (room : Nat) (state : State) :
    (State.give room state).2.given = min state.out.size (state.given + room) := rfl

theorem out_give (room : Nat) (state : State) : (State.give room state).2.out = state.out := rfl

theorem unread_give (room : Nat) (state : State) :
    (State.give room state).2.unread = state.unread := rfl

/-- A run with so much room gives bytes behind those that it had, and what is left comes after
them. It gives none only where it had some, has no room or has come to the end. -/
def Adds (data : Bytes) (room : Nat) (soFar : Bytes) (state : State)
    (answer : Except CodecFault (Bytes × State)) : Prop :=
  ∃ bytes next, answer = .ok (soFar ++ bytes, next) ∧ Reads data next ∧
    data.drop state.given = bytes ++ data.drop next.given ∧ bytes.length ≤ room ∧
    (bytes = [] → soFar ≠ [] ∨ room = 0 ∨ data.drop state.given = [])

/-- Where a run stops it adds nothing. -/
theorem Reads.adds_nothing (h : Reads data state) {room : Nat} {soFar : Bytes}
    (hend : soFar ≠ [] ∨ data.drop state.given = []) :
    Adds data room soFar state (.ok (soFar, state)) :=
  ⟨[], state, by rw [List.append_nil], h, rfl, Nat.zero_le _, fun _ => hend.imp_right .inr⟩

/-- What a step adds is given, and then the run goes on if there is room. -/
theorem Reads.onward (h : Reads data state) (hlength : data.length < UInt32.size)
    (hunfinished : produce.betweenFrames state ≠ some true) {fuel : Nat}
    (hproduce : ∀ {next}, Reads data next → next.given = next.out.size →
      next.unread < state.unread → ∀ room soFar,
      Adds data room soFar next (State.produce fuel room soFar next))
    (room : Nat) (soFar : Bytes) :
    Adds data room soFar state (produce.onward fuel room soFar state) := by
  obtain ⟨stepped, hstep, hreads, hkept, hless⟩ := h.step hlength room hunfinished
  obtain ⟨hbytes, hcount, hgave⟩ := hreads.give room
  have hgiven := given_give room stepped
  have hout := out_give room stepped
  have hunread := unread_give room stepped
  rw [hkept] at hbytes hcount hgiven
  rw [produce.onward, hstep]
  generalize hgive : State.give room stepped = given at *
  obtain ⟨first, paused⟩ := given
  dsimp only at *
  rw [hgive]
  dsimp only
  by_cases hpending : paused.given < paused.out.size
  · rw [if_pos hpending]
    refine ⟨first, paused, rfl, hgave, hbytes, by omega, fun hnone => .inr (.inl ?_)⟩
    rw [hnone, List.length_nil] at hcount
    rw [hout] at hpending
    omega
  · rw [if_neg hpending]
    obtain ⟨more, next, hmade, hnext, hmore, hfits, hend⟩ := hproduce hgave
      (Nat.le_antisymm hgave.given_le (Nat.not_lt.mp hpending)) (by omega)
      (room - first.length) (soFar ++ first)
    refine ⟨first ++ more, next, by rw [hmade, List.append_assoc], hnext, ?_, ?_, ?_⟩
    · rw [hbytes, hmore, List.append_assoc]
    · rw [List.length_append]
      omega
    · intro hnone
      obtain ⟨rfl, rfl⟩ := List.append_eq_nil_iff.mp hnone
      rw [hbytes]
      simpa only [List.append_nil, List.length_nil, Nat.sub_zero, List.nil_append] using hend rfl

/-- **A run keeps what is still to be read**, whatever room there is. The induction is on the fuel,
which the input that is unread stays below. -/
theorem Reads.produce (h : Reads data state) (hlength : data.length < UInt32.size)
    (hall : state.given = state.out.size) {fuel : Nat} (hfuel : state.unread < fuel) (room : Nat)
    (soFar : Bytes) : Adds data room soFar state (State.produce fuel room soFar state) := by
  induction fuel generalizing state room soFar with
  | zero => exact absurd hfuel (Nat.not_lt_zero _)
  | succ fuel ih =>
    have honward (hunfinished : produce.betweenFrames state ≠ some true) (soFar : Bytes) :
        Adds data room soFar state (produce.onward fuel room soFar state) :=
      h.onward hlength hunfinished (fun hnext hgiven hless => ih hnext hgiven (by omega)) room soFar
    unfold State.produce
    cases hbetween : produce.betweenFrames state with
    | none => exact honward (hbetween ▸ nofun) soFar
    | some finished =>
      cases soFar with
      | cons b bytes => cases finished <;> exact h.adds_nothing (.inl (List.cons_ne_nil _ _))
      | nil =>
        cases finished with
        | false => exact honward (hbetween ▸ nofun) []
        | true =>
          obtain ⟨hused, hout⟩ := h.ended hbetween
          refine (if_pos hused).symm ▸ h.adds_nothing (.inr ?_)
          rw [List.drop_eq_nil_iff, ← hout, hall]
          exact Nat.le_refl _

end State

/-! ## The reader -/

/-- What is left to give of some data: what has been put out and not given, and what is still to be
read. -/
structure Leaves (data rest : Bytes) (state : State) : Prop where
  reads : state.Reads data
  rest_eq : rest = data.drop state.given

/-- **The reader keeps what is left.** It gives what is there, or decompresses more. -/
theorem keeps_reader (hlength : data.length < UInt32.size) : reader.Keeps (Leaves data) := by
  intro room state rest hroom hleaves
  show ∃ bytes later next, State.read room state = .ok (bytes, next) ∧ _
  have hgiven := hleaves.reads.given_le
  unfold State.read
  by_cases hpending : state.given < state.out.size
  · rw [if_pos hpending]
    obtain ⟨hbytes, hcount, hnext⟩ := hleaves.reads.give room
    refine ⟨(state.give room).1, _, (state.give room).2, rfl, hleaves.rest_eq.trans hbytes, ?_,
      ⟨hnext, rfl⟩, fun hnone => ?_⟩
    · rw [hcount, State.given_give]
      omega
    · rw [hnone, List.length_nil, State.given_give] at hcount
      omega
  · rw [if_neg hpending]
    obtain ⟨bytes, next, hproduce, hnext, hbytes, hcount, hend⟩ := hleaves.reads.produce hlength
      (Nat.le_antisymm hgiven (Nat.not_lt.mp hpending)) (Nat.lt_succ_self state.unread) room []
    refine ⟨bytes, _, next, hproduce, hleaves.rest_eq.trans hbytes, hcount, ⟨hnext, rfl⟩,
      fun hnone => ?_⟩
    rw [hleaves.rest_eq]
    rcases hend hnone with hsome | hempty | hrest
    · exact absurd rfl hsome
    · exact absurd hempty (Nat.ne_of_gt hroom)
    · exact hrest

/-- **The plain zstd form of data spells it out**, if a field can tell the size of the data. -/
theorem spells_compress (hlength : data.length < UInt32.size) :
    Source.Spells ⟨reader, State.start (compress data)⟩ data :=
  Reader.Keeps.spells (keeps_reader hlength) ⟨.start, rfl⟩

end CommandLink.Zstd
