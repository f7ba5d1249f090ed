import CommandLink.Compressor

/-!
# What readers make of a buffer

Filling a buffer from a reader adds exactly the number of bytes that were declared, or leaves it as
it was: a reader that gives too few or too many is found out by what it has added
(`Reader.fills_fill`). Snappy data that can be followed to its end comes to what it announces
(`Snappy.length_of_expand`).
-/

namespace CommandLink

/-- The buffer gained exactly the declared number of bytes, or it is as it was before. -/
def Fill.Fills (fill : Fill) (declared : Nat) (buffer : Bytes) : Prop :=
  match fill.result with
  | .ok _ => ∃ bytes, fill.buffer = buffer ++ bytes ∧ bytes.length = declared
  | .error _ => fill.buffer = buffer

namespace Fill

variable {declared : Nat} {buffer bytes : Bytes}

/-- A buffer that gained the declared number of bytes keeps them. -/
theorem whole_of_length_eq (h : bytes.length = declared) :
    Fill.whole ⟨buffer ++ bytes, .ok ()⟩ declared buffer = ⟨buffer ++ bytes, .ok ()⟩ := by
  simp only [whole, List.length_append, Nat.add_sub_cancel_left, Except.bind, expectLength,
    if_pos h]

/-- One that gained any other number of bytes keeps none. -/
theorem whole_of_length_ne (h : bytes.length ≠ declared) :
    Fill.whole ⟨buffer ++ bytes, .ok ()⟩ declared buffer =
      ⟨buffer, .error (.lengthMismatch bytes.length declared)⟩ := by
  simp only [whole, List.length_append, Nat.add_sub_cancel_left, Except.bind, expectLength,
    if_neg h, List.take_left]

/-- Nor does one that gained any before a failure. -/
theorem whole_of_error (fault : CodecFault) :
    Fill.whole ⟨buffer ++ bytes, .error fault⟩ declared buffer = ⟨buffer, .error fault⟩ := by
  simp only [whole, Except.bind, List.take_left]

end Fill

namespace Reader

variable {σ : Type}

/-- Filling keeps what was copied if it is whole. -/
theorem fill_eq (reader : Reader σ) (state : σ) (declared : Nat) (buffer : Bytes) :
    reader.fill state declared buffer =
      (reader.copy (declared + 1) state buffer).whole declared buffer := rfl

/-- What a reader gives is added at the end, whatever comes of it. -/
theorem exists_append_copy (reader : Reader σ) (room : Nat) (state : σ) (buffer : Bytes) :
    ∃ bytes, (reader.copy room state buffer).buffer = buffer ++ bytes := by
  fun_induction Reader.copy reader room state buffer with
  | case1 state buffer => exact ⟨[], (List.append_nil buffer).symm⟩
  | case2 room state buffer _ fault _ => exact ⟨[], (List.append_nil buffer).symm⟩
  | case3 room state buffer _ bytes next _ _ => exact ⟨[], (List.append_nil buffer).symm⟩
  | case4 room state buffer _ bytes next _ b taken _ ih =>
    obtain ⟨more, hmore⟩ := ih
    exact ⟨b :: taken ++ more, by rw [hmore, List.append_assoc]⟩

/-- Filling from any reader adds the declared number of bytes or nothing. -/
theorem fills_fill (reader : Reader σ) (state : σ) (declared : Nat) (buffer : Bytes) :
    (reader.fill state declared buffer).Fills declared buffer := by
  obtain ⟨bytes, hbytes⟩ := reader.exists_append_copy (declared + 1) state buffer
  rw [fill_eq]
  cases hcopied : reader.copy (declared + 1) state buffer with
  | mk copied result =>
    rw [hcopied] at hbytes
    subst hbytes
    cases result with
    | error fault =>
      rw [Fill.whole_of_error]
      exact rfl
    | ok _ =>
      by_cases hlength : bytes.length = declared
      · rw [Fill.whole_of_length_eq hlength]
        exact ⟨bytes, rfl, hlength⟩
      · rw [Fill.whole_of_length_ne hlength]
        exact rfl

end Reader

namespace Snappy

/-- Data that could be followed to its end has come to the length that was announced. -/
theorem size_of_run {length fuel : Nat} {data : Bytes} {out final : ByteArray}
    (h : run length fuel data out = some final) : final.size = length := by
  fun_induction run length fuel data out with
  | case1 fuel out hsize =>
    cases h
    exact hsize
  | case5 fuel out data _ count size _ rest hroom ih => exact ih h
  | case8 fuel out data _ offset count size _ hroom ih => exact ih h
  | _ => cases h

/-- Data that could be expanded comes to the length that it announces. -/
theorem length_of_expand {data bytes : Bytes} {length : Nat}
    (hannounced : announced data = .ok length) (hexpand : expand data = .ok bytes) :
    bytes.length = length := by
  unfold expand at hexpand
  cases hpreamble : preamble? 0 0 0 data with
  | none =>
    rw [hpreamble] at hexpand
    cases hexpand
  | some preamble =>
    obtain ⟨told, size⟩ := preamble
    have hdata : data ≠ [] := by
      rintro rfl
      cases hpreamble
    have htold : told = length := by
      simp only [announced, if_neg hdata, hpreamble] at hannounced
      split at hannounced
      · exact Except.ok.inj hannounced
      · cases hannounced
    rw [hpreamble] at hexpand
    dsimp only at hexpand
    cases hrun : run told data.length (data.drop size) .empty with
    | none =>
      rw [hrun] at hexpand
      cases hexpand
    | some out =>
      rw [hrun] at hexpand
      cases hexpand
      rw [← htold, ← size_of_run hrun]
      exact Array.length_toList

end Snappy

end CommandLink
