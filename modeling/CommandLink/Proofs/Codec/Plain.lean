import CommandLink.Proofs.Codec.Zlib
import CommandLink.Proofs.Codec.Zstd

/-!
# The plain forms are undone

The libraries at hand undo what is packed in a plain form, with every method and at every level
(`Unpacking.own_undoes_plain`). Of zlib and zstd data it is the readers that see to it. The plain
form of Snappy data is its length and one literal. The literal is read back in one step
(`Snappy.piece?_tag`), behind a length that is read back seven bits at a time
(`Snappy.preamble?_varint`).
-/

namespace CommandLink

namespace Snappy

/-! ## The length in front -/

/-- A number is read back from the seven-bit groups that it was written in, whatever follows. The
induction is on the room for groups; the value read so far and its place generalize. -/
theorem preamble?_varint (rest : Bytes) :
    ∀ (fuel n shift size value : Nat), n < 128 ^ (fuel + 1) → shift + 7 * fuel < 64 →
      preamble? shift size value (varint (fuel + 1) n ++ rest) =
        some ((value + n <<< shift) % UInt64.size, size + (varint (fuel + 1) n).length) := by
  intro fuel
  induction fuel with
  | zero =>
    intro n shift size value hn hshift
    have hsmall : n < 128 := by simpa using hn
    have hbyte : (UInt8.ofNat n).toNat = n := by
      rw [UInt8.toNat_ofNat']
      omega
    simp only [varint, if_pos hsmall, List.singleton_append, preamble?, hbyte,
      Nat.mod_eq_of_lt hsmall, List.length_singleton]
    rw [if_neg (by omega)]
  | succ fuel ih =>
    intro n shift size value hn hshift
    rw [varint]
    by_cases hsmall : n < 128
    · have hbyte : (UInt8.ofNat n).toNat = n := by
        rw [UInt8.toNat_ofNat']
        omega
      simp only [if_pos hsmall, List.singleton_append, preamble?, hbyte,
        Nat.mod_eq_of_lt hsmall, List.length_singleton]
      rw [if_neg (by omega)]
    · have hbyte : (UInt8.ofNat (n % 128 + 128)).toNat = n % 128 + 128 := by
        rw [UInt8.toNat_ofNat']
        omega
      have hrest : n / 128 < 128 ^ (fuel + 1) := by
        rw [Nat.div_lt_iff_lt_mul (by decide)]
        exact hn
      have hgroups : value + (n % 128) <<< shift + (n / 128) <<< (shift + 7) =
          value + n <<< shift := by
        have hsplit : n = n % 128 + n / 128 * 128 := by omega
        simp only [Nat.shiftLeft_eq]
        calc value + n % 128 * 2 ^ shift + n / 128 * 2 ^ (shift + 7)
            = value + (n % 128 + n / 128 * 128) * 2 ^ shift := by
              rw [Nat.pow_add, Nat.add_mul, Nat.add_assoc, Nat.mul_assoc (n / 128) 128,
                Nat.mul_comm (2 ^ shift)]
          _ = value + n * 2 ^ shift := by rw [← hsplit]
      have hlow : (n % 128 + 128) % 128 = n % 128 := by omega
      simp only [if_neg hsmall, List.cons_append, preamble?, hbyte, hlow]
      rw [if_neg (by omega), if_neg (by omega), ih _ _ _ _ hrest (by omega), hgroups]
      simp only [List.length_cons, Option.some.injEq, Prod.mk.injEq, true_and]
      omega

/-! ## One literal -/

/-- The bytes that announce a literal of some length. -/
def literalTag (length : Nat) : Bytes :=
  if length = 0 then []
  else if length ≤ 60 then [UInt8.ofNat (4 * (length - 1))]
  else if length ≤ 0x100 then 0xF0 :: Bytes.ofNat 1 (length - 1)
  else if length ≤ 0x10000 then 0xF4 :: Bytes.ofNat 2 (length - 1)
  else if length ≤ 0x1000000 then 0xF8 :: Bytes.ofNat 3 (length - 1)
  else 0xFC :: Bytes.ofNat 4 (length - 1)

theorem compress_eq (data : Bytes) :
    compress data = varint 5 data.length ++ (literalTag data.length ++ data) := by
  rw [← List.append_assoc]
  rfl

/-- A literal whose length is written out in some bytes, followed by four bytes or more. -/
theorem piece?_long (tag : UInt8) {width length : Nat} {data : Bytes} (hwidth : width ≤ 4)
    (htag : tag.toNat = 4 * (59 + width)) (hpos : 0 < width) (hlength : 0 < length)
    (hfits : length - 1 < 256 ^ width) (hdata : 4 ≤ data.length) :
    piece? (tag :: (Bytes.ofNat width (length - 1) ++ data)) =
      some (.literal length, width + 1) := by
  have hheld : Bytes.holds (Bytes.ofNat width (length - 1) ++ data) 4 = true := by
    rw [Bytes.holds_iff, List.length_append]
    omega
  have hlow : 4 * (59 + width) % 4 = 0 := by omega
  have hhigh : 4 * (59 + width) / 4 = 59 + width := by omega
  have hfield : ((Bytes.ofNat width (length - 1) ++ data).take width) =
      Bytes.ofNat width (length - 1) := List.take_left' (Bytes.length_ofNat _ _)
  simp only [piece?, htag, hlow, hhigh, if_pos, if_neg (show ¬ 59 + width < 60 by omega),
    Nat.add_sub_cancel_left, hheld, hfield, Bytes.toNat_ofNat, Nat.mod_eq_of_lt hfits]
  rw [Nat.sub_add_cancel hlength]

/-- **A literal is announced by its tag**: the instruction in front of the data takes as many bytes
from it as there are. -/
theorem piece?_tag {data : Bytes} (hpos : 0 < data.length) (hlength : data.length < UInt32.size) :
    piece? (literalTag data.length ++ data) =
      some (.literal data.length, (literalTag data.length).length) := by
  have hword : UInt32.size = 256 ^ 4 := rfl
  rw [hword] at hlength
  unfold literalTag
  rw [if_neg (by omega)]
  split
  · rename_i hshort
    have hbyte : (UInt8.ofNat (4 * (data.length - 1))).toNat = 4 * (data.length - 1) := by
      rw [UInt8.toNat_ofNat']
      omega
    have hlow : 4 * (data.length - 1) % 4 = 0 := by omega
    have hhigh : 4 * (data.length - 1) / 4 = data.length - 1 := by omega
    simp only [List.singleton_append, piece?, hbyte, hlow, hhigh, if_pos,
      if_pos (show data.length - 1 < 60 by omega), Nat.sub_add_cancel hpos,
      List.length_singleton]
  · rename_i hlong
    split
    · exact piece?_long 0xF0 (by decide) (by decide) (by decide) hpos (by omega) (by omega)
    · split
      · exact piece?_long 0xF4 (by decide) (by decide) (by decide) hpos (by omega) (by omega)
      · split
        · exact piece?_long 0xF8 (by decide) (by decide) (by decide) hpos (by omega) (by omega)
        · exact piece?_long 0xFC (by decide) (by decide) (by decide) hpos (by omega) (by omega)

/-- Bytes that are appended one by one are appended. -/
theorem toList_pushAll (bytes : Bytes) (out : ByteArray) :
    (pushAll bytes out).data.toList = out.data.toList ++ bytes := by
  induction bytes generalizing out with
  | nil => simp only [pushAll, List.append_nil]
  | cons byte rest ih =>
    simp only [pushAll, ih, Bytes.toList_push, List.append_assoc, List.singleton_append]

/-- One literal spells out its data. -/
theorem run_literal {data : Bytes} (fuel : Nat) (hlength : data.length < UInt32.size) :
    ∃ out, run data.length (fuel + 1) (literalTag data.length ++ data) .empty = some out ∧
      out.data.toList = data := by
  cases data with
  | nil => exact ⟨.empty, rfl, rfl⟩
  | cons byte rest =>
    have hpiece := @piece?_tag (byte :: rest) (Nat.succ_pos _) hlength
    obtain ⟨tag, tags, hcons⟩ : ∃ tag tags, literalTag (byte :: rest).length = tag :: tags := by
      unfold literalTag
      rw [if_neg (List.length_cons ▸ Nat.succ_ne_zero _)]
      repeat' split
      all_goals exact ⟨_, _, rfl⟩
    have hout := toList_pushAll (byte :: rest) .empty
    have hsize : (pushAll (byte :: rest) .empty).size = (byte :: rest).length :=
      congrArg List.length hout
    have hdrop : (tag :: (tags ++ byte :: rest)).drop (tag :: tags).length = byte :: rest :=
      List.drop_left' rfl
    have hheld : Bytes.holds (byte :: rest) (byte :: rest).length = true :=
      Bytes.holds_iff.mpr (Nat.le_refl _)
    refine ⟨pushAll (byte :: rest) .empty, ?_, hout⟩
    rw [hcons, List.cons_append] at hpiece ⊢
    simp only [run, hpiece, hdrop]
    rw [if_pos ⟨Nat.le_refl _, hheld⟩, List.drop_length, List.take_length]
    cases fuel <;> rw [run, if_pos hsize]

/-! ## The round trip -/

/-- The length in front of Snappy data is the length of the data. -/
theorem preamble?_compress {data : Bytes} (hlength : data.length < UInt32.size) :
    preamble? 0 0 0 (compress data) = some (data.length, (varint 5 data.length).length) := by
  rw [compress_eq,
    preamble?_varint _ 4 _ 0 0 0 (Nat.lt_of_lt_of_le hlength (by decide)) (by decide)]
  simp only [Nat.zero_add, Nat.shiftLeft_zero]
  rw [Nat.mod_eq_of_lt (Nat.lt_of_lt_of_le hlength (by decide))]

/-- The plain form announces the length of the data. -/
theorem announced_compress {data : Bytes} (hlength : data.length < UInt32.size) :
    announced (compress data) = .ok data.length := by
  have hpreamble := preamble?_compress hlength
  have hne : compress data ≠ [] := by
    intro hnil
    rw [hnil] at hpreamble
    cases hpreamble
  simp only [announced, if_neg hne, hpreamble, if_pos hlength]

/-- **The plain form of data is expanded to the data.** -/
theorem expand_compress {data : Bytes} (hlength : data.length < UInt32.size) :
    expand (compress data) = .ok data := by
  have hpreamble := preamble?_compress hlength
  have hlong : (compress data).length ≠ 0 := by
    intro hnil
    rw [List.eq_nil_of_length_eq_zero hnil] at hpreamble
    cases hpreamble
  obtain ⟨fuel, hfuel⟩ := Nat.exists_eq_succ_of_ne_zero hlong
  obtain ⟨out, hrun, hout⟩ := run_literal fuel hlength
  have hrest : (compress data).drop (varint 5 data.length).length =
      literalTag data.length ++ data := by
    rw [compress_eq, List.drop_left]
  simp only [expand, hpreamble, hrest, hfuel, Nat.succ_eq_add_one, hrun, hout]

end Snappy

/-! ## The libraries at hand -/

/-- **What is packed in a plain form, the libraries at hand undo.** -/
theorem Unpacking.own_undoes_plain (compressor : Compressor) :
    Unpacking.own.Undoes .plain compressor := by
  intro data packed hlength hpack
  unfold Compressor.pack at hpack
  cases hmethod : compressor.method with
  | noop => exact trivial
  | snappy =>
    rw [hmethod] at hpack
    cases hpack
    refine ⟨Snappy.announced_compress hlength, fun room hroom => ?_⟩
    have hexpand := Snappy.expand_compress hlength
    exact Snappy.Library.follows_own.write_of_ok hexpand hroom.symm
  | zlib =>
    rw [hmethod] at hpack
    cases hpack
    exact Zlib.spells_compress data
  | zstd =>
    rw [hmethod] at hpack
    cases hpack
    exact ⟨_, rfl, Zstd.spells_compress hlength⟩

end CommandLink
