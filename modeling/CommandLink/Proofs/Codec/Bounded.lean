import CommandLink.Codec.Zlib
import CommandLink.Codec.Zstd.Frame
import CommandLink.Proofs.Codec.Chunks

/-!
# Just the declared bytes, and then the end

A buffer is filled just if what is drawn on gives the declared number of bytes and then ends
(`filled_exactly`). The decompressors at hand are never interrupted, so that filling from them
always comes to an end.
-/

namespace CommandLink

theorem Zlib.uninterrupted_feed : Zlib.reader.feed.Uninterrupted := by
  refine Reader.uninterrupted_feed ?_
  intro room state fault h
  change Zlib.read room state = .error fault at h
  unfold Zlib.read at h
  split at h
  · cases h
  · dsimp only at h
    split at h
    · cases h
      rfl
    · split at h
      · cases h
      · split at h
        · cases h
          rfl
        · cases h

namespace Zstd.State

/-- Data that is damaged or ends early is all that stops a decompressor. -/
theorem isInterruption_of_produce {fuel room : Nat} {soFar : Bytes} {state : State}
    {fault : CodecFault} (h : produce fuel room soFar state = .error fault) :
    fault.isInterruption = false := by
  induction fuel generalizing room soFar state with
  | zero =>
    rw [produce] at h
    cases h
  | succ fuel ih =>
    have honward : ∀ {soFar}, produce.onward fuel room soFar state = .error fault →
        fault.isInterruption = false := by
      intro soFar h
      unfold produce.onward at h
      split at h
      · cases h
        rfl
      · split at h
        · cases h
          rfl
        · cases h
      · dsimp only at h
        split at h
        · cases h
        · exact ih h
    unfold produce at h
    split at h
    · split at h
      · cases h
      · exact honward h
    · cases h
    · exact honward h

end Zstd.State

theorem Zstd.uninterrupted_feed : Zstd.reader.feed.Uninterrupted := by
  refine Reader.uninterrupted_feed ?_
  intro room state fault h
  change State.read room state = .error fault at h
  unfold State.read at h
  split at h
  · cases h
  · exact State.isInterruption_of_produce h

/-- **A buffer is filled just if the declared bytes come, and then the end.** Let the declared
length be any below the greatest that can be counted. Filling a buffer from chunks, which may be
interrupted and may never end, comes to just what the chunks bring. If they come to the declared
number of bytes and then end, the buffer gains them. If they end before, or are more, their length
does not match, whatever would follow the first byte too many. If they fail before any byte too
many, be it right after the last one, filling fails in the same way. In all these cases but the
first the buffer is as it was. Filling comes to nothing only if nothing but interruptions follows
before any byte too many. The same holds of any feed, by what it gives when it is asked as filling
asks. Where there are no interruptions filling takes no more attempts than one for each declared
byte and two more, and there are none from the readers at hand, from which a connection fills its
buffers. -/
theorem filled_exactly {declared : UInt64} (h : declared.toNat + 1 < UInt64.size)
    (buffer : Bytes) :
    (∀ (chunks : Chunks) (outcome : Option Fill),
      chunks.feed.ComesTo Chunks.start declared buffer outcome ↔
        chunks.outflow.Brings declared.toNat buffer outcome) ∧
    (∀ (σ : Type) (feed : Feed σ) (state : σ) (outcome : Option Fill),
      feed.ComesTo state declared buffer outcome ↔
        (feed.outflow (Feed.asked declared.toNat) state).Brings declared.toNat buffer
          outcome) ∧
    (∀ (σ : Type) (feed : Feed σ) (state : σ), feed.Uninterrupted →
      ∃ filled, ∀ attempts ≥ declared.toNat + 2,
        feed.fill attempts state declared buffer = some filled) ∧
    (∀ (σ : Type) (reader : Reader σ) (state : σ), reader.feed.Uninterrupted →
      ∀ attempts ≥ declared.toNat + 2, reader.feed.fill attempts state declared buffer =
        some (reader.fill state declared.toNat buffer)) ∧
    Zlib.reader.feed.Uninterrupted ∧ Zstd.reader.feed.Uninterrupted ∧
    ∀ actual told, (CodecFault.lengthMismatch actual told).kind = .invalidData := by
  refine ⟨?_, fun σ feed state outcome => feed.comesTo_iff state h buffer outcome, ?_, ?_,
    Zlib.uninterrupted_feed, Zstd.uninterrupted_feed, fun actual told => rfl⟩
  · intro chunks outcome
    rw [chunks.feed.comesTo_iff Chunks.start h, chunks.brings_iff]
  · intro σ feed state huninterrupted
    obtain ⟨filled, hfilled⟩ := Feed.exists_fill huninterrupted state h buffer
    exact ⟨filled, fun attempts hle => Feed.fill_of_le hle hfilled⟩
  · intro σ reader state huninterrupted attempts hle
    exact Feed.fill_of_le hle (Reader.fill_feed huninterrupted state h buffer)

/-- Three bytes with an interruption between them, and then a check that fails. -/
def Chunks.unchecked : Chunks where
  delivery
    | 0 => .ok [1, 2]
    | 1 => .error (.damaged .interrupted "interrupted")
    | 2 => .ok [3]
    | _ => .error (.damaged .other "the check fails")

/-- The same bytes over and over. -/
def Chunks.endless : Chunks := ⟨fun _ => .ok [7, 7]⟩

/-- Three bytes are declared. The check fails after the last of them, and its failure is handed on;
of bytes without end four are looked at. -/
theorem filled_exactly_three :
    (3 : UInt64).toNat + 1 < UInt64.size ∧
    Chunks.unchecked.feed.ComesTo Chunks.start 3 [9]
      (some ⟨[9], .error (.damaged .other "the check fails")⟩) ∧
    Chunks.endless.feed.ComesTo Chunks.start 3 [9]
      (some ⟨[9], .error (.lengthMismatch 4 3)⟩) := by
  have hcounted : (3 : UInt64).toNat + 1 < UInt64.size := by decide
  have hchunks := (filled_exactly hcounted [9]).1
  have hunchecked : Chunks.unchecked.Reaches 3 [1, 2, 3] := by
    refine ⟨?_, rfl⟩
    intro index hlt
    match index with
    | 0 => exact nofun
    | 1 => exact rfl
    | 2 => exact nofun
  have hendless : Chunks.endless.Reaches 2 [7, 7, 7, 7] := ⟨fun _ _ => nofun, rfl⟩
  refine ⟨hcounted, ?_, ?_⟩
  · exact (hchunks _ _).mpr (.failed ⟨3, hunchecked, rfl, rfl⟩ (by decide))
  · exact (hchunks _ _).mpr (.long ⟨2, hendless⟩ (by decide))

end CommandLink
