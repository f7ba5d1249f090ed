import CommandLink.Compressor.Unpacking
import CommandLink.Proofs.Codec.Filling

/-!
# All or nothing, with any libraries

Unpacking adds the declared number of bytes or leaves the buffer as it was (`unpacking_whole`). That
hangs on the libraries in one point only: a Snappy library that succeeds has written as many bytes
as the data announces (`Snappy.Library.KeepsToAnnounced`). What it leaves of the buffer when it
fails does not count, since that is cut off, and of a reader nothing is relied on at all.

Unpacking in place comes to the same as expanding the data beside the buffer
(`Snappy.Library.uncompress_eq`), so a connection unpacks as its libraries do
(`Compressor.uncompress_eq_unpackWith`).
-/

namespace CommandLink

namespace Snappy.Library

variable {library : Library} {data : Bytes} {declared length : Nat} {buffer : Bytes}

/-- A library that succeeds has written as many bytes as the data announces. -/
def KeepsToAnnounced (library : Library) : Prop :=
  ∀ data room written, library.announced data = .ok room.length →
    (library.write data room).2 = .ok written → written = room.length

/-- A library follows the format: it announces and writes what the data does, and fails where the
data cannot be expanded, whatever it leaves of the room then. -/
structure Follows (library : Library) : Prop where
  announced_eq : library.announced = Snappy.announced
  write_of_ok : ∀ {data room bytes}, expand data = .ok bytes → bytes.length = room.length →
    library.write data room = (bytes, .ok bytes.length)
  write_of_error : ∀ {data fault} room, expand data = .error fault →
    (library.write data room).2 = .error fault

/-! ## In place -/

/-- Data that announces nothing leaves the buffer alone. -/
theorem uncompress_of_unannounced {fault : CodecFault} (h : library.announced data = .error fault) :
    library.uncompress data declared buffer = ⟨buffer, .error fault⟩ := by
  rw [uncompress, h]

/-- So does data that announces another length than was declared. -/
theorem uncompress_of_ne (h : library.announced data = .ok length) (hne : length ≠ declared) :
    library.uncompress data declared buffer =
      ⟨buffer, .error (.lengthMismatch length declared)⟩ := by
  simp only [uncompress, h, expectLength, if_neg hne]

/-- Where a library fails, all that the buffer gained is cut off, whatever was left there. -/
theorem uncompress_of_failed {fault : CodecFault} (h : library.announced data = .ok declared)
    (hwrite : (library.write data (List.replicate declared 0)).2 = .error fault) :
    library.uncompress data declared buffer = ⟨buffer, .error fault⟩ := by
  have hdeclared : expectLength declared declared = .ok () := if_pos rfl
  simp only [uncompress, h, hdeclared, List.drop_left, List.take_left, hwrite]

/-- A library leaves its room as long as it was. -/
theorem length_room {room : Bytes} {outcome : Except CodecFault Nat}
    (hwrite : library.write data (List.replicate declared 0) = (room, outcome)) :
    room.length = declared := by
  have hlength := library.length_write data (List.replicate declared 0)
  rwa [hwrite, List.length_replicate] at hlength

/-- Where it has written all of its room nothing is cut off. -/
theorem uncompress_of_filled {room : Bytes} (h : library.announced data = .ok declared)
    (hwrite : library.write data (List.replicate declared 0) = (room, .ok declared)) :
    library.uncompress data declared buffer = ⟨buffer ++ room, .ok ()⟩ := by
  have hdeclared : expectLength declared declared = .ok () := if_pos rfl
  have hwhole : (buffer ++ room).take (buffer.length + declared) = buffer ++ room :=
    List.take_of_length_le (Nat.le_of_eq (by rw [List.length_append, length_room hwrite]))
  simp only [uncompress, h, hdeclared, List.drop_left, List.take_left, hwrite, hwhole]

/-- **Unpacking in place** adds the declared number of bytes, or leaves the buffer as it was. -/
theorem fills_uncompress (h : library.KeepsToAnnounced) (data : Bytes) (declared : Nat)
    (buffer : Bytes) : (library.uncompress data declared buffer).Fills declared buffer := by
  cases hannounced : library.announced data with
  | error fault =>
    rw [uncompress_of_unannounced hannounced]
    exact rfl
  | ok length =>
    by_cases hlength : length = declared
    · subst hlength
      cases hwrite : library.write data (List.replicate length 0) with
      | mk room outcome =>
        cases outcome with
        | error fault =>
          rw [uncompress_of_failed hannounced (congrArg Prod.snd hwrite)]
          exact rfl
        | ok written =>
          have hwritten : written = length := by
            have hkept := h data (List.replicate length 0) written
            rw [List.length_replicate] at hkept
            exact hkept hannounced (congrArg Prod.snd hwrite)
          subst hwritten
          rw [uncompress_of_filled hannounced hwrite]
          exact ⟨room, rfl, length_room hwrite⟩
    · rw [uncompress_of_ne hannounced hlength]
      exact rfl

/-! ## In place and beside -/

/-- A library that follows the format keeps to what the data announces. -/
theorem Follows.keepsToAnnounced (h : library.Follows) : library.KeepsToAnnounced := by
  intro data room written hannounced hwrite
  rw [h.announced_eq] at hannounced
  cases hexpand : expand data with
  | error fault =>
    rw [h.write_of_error room hexpand] at hwrite
    cases hwrite
  | ok bytes =>
    have hlength : bytes.length = room.length := length_of_expand hannounced hexpand
    rw [h.write_of_ok hexpand hlength] at hwrite
    cases hwrite
    exact hlength

/-- **In place or beside**, a library that follows the format unpacks alike. -/
theorem uncompress_eq (h : library.Follows) (data : Bytes) (declared : Nat) (buffer : Bytes) :
    library.uncompress data declared buffer = Snappy.uncompress data declared buffer := by
  unfold Snappy.uncompress
  rw [← h.announced_eq]
  cases hannounced : library.announced data with
  | error fault => exact uncompress_of_unannounced hannounced
  | ok length =>
    by_cases hlength : length = declared
    · subst hlength
      simp only [bind, Except.bind, expectLength, if_pos]
      cases hexpand : expand data with
      | error fault => exact uncompress_of_failed hannounced (h.write_of_error _ hexpand)
      | ok bytes =>
        have hbytes : bytes.length = length :=
          length_of_expand (h.announced_eq ▸ hannounced) hexpand
        have hwrite : library.write data (List.replicate length 0) = (bytes, .ok bytes.length) :=
          h.write_of_ok hexpand (hbytes.trans List.length_replicate.symm)
        exact uncompress_of_filled hannounced (hbytes ▸ hwrite)
    · rw [uncompress_of_ne hannounced hlength]
      simp only [bind, Except.bind, expectLength, if_neg hlength]

theorem follows_own : own.Follows where
  announced_eq := rfl
  write_of_ok hexpand hlength := by simp only [own, hexpand, if_pos hlength]
  write_of_error room hexpand := by simp only [own, hexpand]

end Snappy.Library

namespace Compressor

/-- Unpacking is unpacking with the libraries at hand. -/
theorem uncompress_eq_unpackWith (compressor : Compressor) (data : Bytes) (declared : Nat)
    (buffer : Bytes) :
    compressor.uncompress data declared buffer =
      compressor.unpackWith .own data declared buffer := by
  unfold uncompress unpackWith
  cases compressor.method with
  | noop => rfl
  | snappy =>
    exact (Snappy.Library.uncompress_eq Snappy.Library.follows_own data declared buffer).symm
  | zlib => rfl
  | zstd => rfl

/-- **Unpacking with any libraries** adds exactly the declared number of bytes, or leaves the buffer
as it was. -/
theorem fills_unpackWith (compressor : Compressor) {unpacking : Unpacking}
    (h : unpacking.snappy.KeepsToAnnounced) (data : Bytes) (declared : Nat) (buffer : Bytes) :
    (compressor.unpackWith unpacking data declared buffer).Fills declared buffer := by
  unfold unpackWith
  cases compressor.method with
  | noop =>
    by_cases hlength : data.length = declared
    · simp only [expectLength, if_pos hlength]
      exact ⟨data, rfl, hlength⟩
    · simp only [expectLength, if_neg hlength]
      exact rfl
  | snappy => exact Snappy.Library.fills_uncompress h data declared buffer
  | zlib => exact Reader.fills_fill _ _ declared buffer
  | zstd =>
    cases unpacking.zstd data with
    | error fault => exact rfl
    | ok source => exact Reader.fills_fill _ _ declared buffer

/-- **Unpacking** adds exactly the declared number of bytes, or leaves the buffer as it was. -/
theorem fills_uncompress (compressor : Compressor) (data : Bytes) (declared : Nat)
    (buffer : Bytes) : (compressor.uncompress data declared buffer).Fills declared buffer := by
  rw [uncompress_eq_unpackWith]
  exact compressor.fills_unpackWith Snappy.Library.follows_own.keepsToAnnounced data declared buffer

end Compressor

/-- **Unpacking is whole.** Whatever is to be unpacked and whatever length its header declares, the
buffer gains exactly so many bytes, or unpacking fails and the buffer is as it was. That is so of
unpacking as a connection does it, which is unpacking in place with the libraries at hand, and with
any others of which the one for Snappy data keeps to the length that the data announces. -/
theorem unpacking_whole (compressor : Compressor) (data : Bytes) (declared : UInt32)
    (buffer : Bytes) :
    (compressor.uncompress data declared.toNat buffer).Fills declared.toNat buffer ∧
    compressor.uncompress data declared.toNat buffer =
      compressor.unpackWith .own data declared.toNat buffer ∧
    ∀ unpacking : Unpacking, unpacking.snappy.KeepsToAnnounced →
      (compressor.unpackWith unpacking data declared.toNat buffer).Fills declared.toNat buffer := by
  refine ⟨compressor.fills_uncompress data declared.toNat buffer,
    compressor.uncompress_eq_unpackWith data declared.toNat buffer, ?_⟩
  intro unpacking hsnappy
  exact compressor.fills_unpackWith hsnappy data declared.toNat buffer

/-- Snappy data that announces four bytes and breaks off after two is refused, and what the buffer
held stands alone in it. -/
theorem unpacking_whole_broken :
    let broken := Compressor.unpackWith ⟨.snappy, 0⟩ .own [4, 12, 97, 98] 4 [9]
    Snappy.Library.own.KeepsToAnnounced ∧ broken.Fills 4 [9] ∧
      broken.result = .error Snappy.damaged ∧ broken.buffer = [9] := by
  intro broken
  have hkeeps := Snappy.Library.follows_own.keepsToAnnounced
  have hfills : broken.Fills 4 [9] :=
    (unpacking_whole ⟨.snappy, 0⟩ [4, 12, 97, 98] 4 [9]).2.2 .own hkeeps
  have hresult : broken.result = .error Snappy.damaged := rfl
  refine ⟨hkeeps, hfills, hresult, ?_⟩
  rw [Fill.Fills, hresult] at hfills
  exact hfills

end CommandLink
