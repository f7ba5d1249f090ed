import CommandLink.Proofs.Codec.Feed
import CommandLink.Proofs.Codec.Unpacking

/-!
# What is packed is unpacked again

`Unpacking.Undoes` is what is relied on in the libraries: from what the library of a compressor
packed, the library that unpacks tells the data. A Snappy library announces the length of the data
and writes the data over a room of that length. A reader of zlib or zstd data gives exactly the data
and then comes to a clean end, however much it is asked for at a time (`Source.Spells`).

The rest is not the libraries' part: growing and cutting the buffer, reading on until one byte more
than was declared, and checking the length. From what the libraries do it follows that unpacking
adds the data to the buffer (`Compressor.unpackWith_of_undoes`).

A reader can be seen to spell data out by an invariant that tells what is left of the data after
each read (`Reader.Keeps`, `Reader.Keeps.spells`).
-/

namespace CommandLink

/-- Asked for bytes time and again, however many at a time, a source gives exactly the data and then
comes to a clean end. -/
def Source.Spells (source : Source) (data : Bytes) : Prop :=
  ∀ ask : Nat → Nat, (∀ given ≤ data.length, 0 < ask given) →
    (source.reader.feed.outflow ask source.state).ends data

/-- What the library of a compressor packed, the library that unpacks undoes, for data whose length
a header can tell. What is passed on as it is needs no library. -/
def Unpacking.Undoes (unpacking : Unpacking) (packing : Packing) (compressor : Compressor) : Prop :=
  ∀ data packed, data.length < UInt32.size → compressor.pack packing data = .ok packed →
    match compressor.method with
    | .noop => True
    | .snappy =>
      unpacking.snappy.announced packed = .ok data.length ∧
        ∀ room : Bytes, room.length = data.length →
          unpacking.snappy.write packed room = (data, .ok data.length)
    | .zlib => (unpacking.zlib packed).Spells data
    | .zstd => ∃ source, unpacking.zstd packed = .ok source ∧ source.Spells data

/-! ## From the libraries to the buffer -/

/-- A source that spells data out fills a buffer with it. -/
theorem Source.Spells.fill {source : Source} {data : Bytes} (h : source.Spells data)
    (buffer : Bytes) :
    source.reader.fill source.state data.length buffer = ⟨buffer ++ data, .ok ()⟩ := by
  refine Reader.fill_of_ends (h _ fun given hgiven => ?_) buffer
  have hportion : 0 < Reader.portion := by decide
  rw [Feed.asked]
  omega

/-- **Packed data is unpacked** behind what a buffer holds, if the libraries do their part. -/
theorem Compressor.unpackWith_of_undoes {compressor : Compressor} {packing : Packing}
    {unpacking : Unpacking} (hundoes : unpacking.Undoes packing compressor) {data packed : Bytes}
    (hlength : data.length < UInt32.size) (hpack : compressor.pack packing data = .ok packed)
    (buffer : Bytes) :
    compressor.unpackWith unpacking packed data.length buffer = ⟨buffer ++ data, .ok ()⟩ := by
  have hlibrary := hundoes data packed hlength hpack
  unfold unpackWith
  unfold pack at hpack
  cases hmethod : compressor.method with
  | noop =>
    rw [hmethod] at hpack
    cases hpack
    simp only [expectLength, if_pos]
  | snappy =>
    rw [hmethod] at hlibrary
    obtain ⟨hannounced, hwrite⟩ := hlibrary
    exact Snappy.Library.uncompress_of_filled hannounced (hwrite _ List.length_replicate)
  | zlib =>
    rw [hmethod] at hlibrary
    exact hlibrary.fill buffer
  | zstd =>
    rw [hmethod] at hlibrary
    obtain ⟨source, hsource, hspells⟩ := hlibrary
    simp only [hsource]
    exact hspells.fill buffer

/-- So does unpacking as a connection does it, with the libraries at hand. -/
theorem Compressor.uncompress_of_undoes {compressor : Compressor} {packing : Packing}
    (hundoes : Unpacking.own.Undoes packing compressor) {data packed : Bytes}
    (hlength : data.length < UInt32.size) (hpack : compressor.pack packing data = .ok packed)
    (buffer : Bytes) :
    compressor.uncompress packed data.length buffer = ⟨buffer ++ data, .ok ()⟩ := by
  rw [uncompress_eq_unpackWith]
  exact unpackWith_of_undoes hundoes hlength hpack buffer

/-! ## Sources that spell data out -/

section Keeps

variable {σ : Type} {reader : Reader σ} {left : Bytes → σ → Prop}

/-- Whenever some bytes are left and some are asked for, a reader gives some of them, no more than
were asked for, and the others are left. When none are left it gives none. -/
def Reader.Keeps (reader : Reader σ) (left : Bytes → σ → Prop) : Prop :=
  ∀ {room state rest}, 0 < room → left rest state →
    ∃ bytes later next, reader.read room state = .ok (bytes, next) ∧ rest = bytes ++ later ∧
      bytes.length ≤ room ∧ left later next ∧ (bytes = [] → rest = [])

/-- One attempt gives what was read. -/
theorem Reader.Keeps.attempt (h : reader.Keeps left) {room : Nat} {state : σ} {rest : Bytes}
    (hroom : 0 < room) (hleft : left rest state) :
    ∃ bytes later next, reader.feed.attempt room state = (.ok bytes, next) ∧
      rest = bytes ++ later ∧ left later next ∧ (bytes = [] → rest = []) := by
  obtain ⟨bytes, later, next, hread, hrest, hlength, hlater, hend⟩ := h hroom hleft
  refine ⟨bytes, later, next, ?_, hrest, hlater, hend⟩
  rw [Reader.attempt_of_ok hread, List.take_of_length_le hlength]

/-- **A reader that keeps what is left** spells out what it has left at the start. The induction is
on the number of bytes that are left. -/
theorem Reader.Keeps.spells (h : reader.Keeps left) {start : σ} {data : Bytes}
    (hstart : left data start) : Source.Spells ⟨reader, start⟩ data := by
  intro ask hask
  have hfrom : ∀ count given rest state, rest.length = count → data = given ++ rest →
      left rest state → reader.feed.Gives ask start given state →
      (reader.feed.outflow ask start).ends data := by
    intro count
    induction count using Nat.strongRecOn with
    | ind count ih =>
      intro given rest state hcount hdata hleft hgives
      have hgiven : given.length ≤ data.length := by
        rw [hdata, List.length_append]
        exact Nat.le_add_right _ _
      obtain ⟨bytes, later, next, hattempt, hrest, hlater, hend⟩ :=
        h.attempt (hask _ hgiven) hleft
      cases bytes with
      | nil =>
        have hwhole : data = given := by rw [hdata, hend rfl, List.append_nil]
        exact ⟨state, next, hwhole ▸ hgives, hwhole ▸ hattempt⟩
      | cons b chunk =>
        have hless : later.length < count := by
          rw [← hcount, hrest, List.length_append, List.length_cons]
          omega
        refine ih _ hless (given ++ b :: chunk) later next rfl ?_ hlater (hgives.more hattempt)
        rw [hdata, hrest, List.append_assoc]
  exact hfrom _ [] data start rfl rfl hstart .nothing

end Keeps

end CommandLink
