import CommandLink.Text.Lowercase

/-!
# Lower case is final

A text in lower case stays as it is when it is put in lower case again (`lowercase_lowercase`), and
none that holds anything becomes empty (`lowercase_eq_empty_iff`).

Both rest on single characters. What a character is mapped to is never mapped any further, be it two
characters or either form of the sigma (`isLower_of_mem_lowerChar`). Mappings lie in runs, so that
is a matter of two runs at a time: no image of the one falls on a code point of the other
(`CaseRun.avoids`). Once no character is mapped any more, what stands around it does not count.
-/

namespace CommandLink.Text

/-! ## Runs -/

namespace CaseRun

/-- The images of a run lie before another run, behind it, or between its every second code
points. -/
def avoids (run other : CaseRun) : Bool :=
  Nat.blt (run.image + (run.last - run.first)) other.first || Nat.blt other.last run.image ||
    (other.step == 2 && (run.step == 2 || run.first == run.last) &&
      run.image % 2 != other.first % 2)

/-- The images of a run are code points of characters. -/
def landsOnChars (run : CaseRun) : Bool :=
  Nat.blt (run.image + (run.last - run.first)) 0xD800 ||
    (Nat.blt 0xDFFF run.image && Nat.blt (run.image + (run.last - run.first)) 0x110000)

variable {run other : CaseRun} {code image : Nat}

theorem lower?_eq_some_iff : run.lower? code = some image ↔
    (run.first ≤ code ∧ code ≤ run.last ∧ (code - run.first) % run.step = 0) ∧
      image = run.image + (code - run.first) := by
  unfold lower?
  split
  · rename_i hcovered
    simp only [Option.some.injEq, hcovered, and_self, true_and]
    exact eq_comm
  · rename_i huncovered
    simp only [reduceCtorEq, huncovered, false_and]

theorem lower?_eq_none_iff : run.lower? code = none ↔
    ¬ (run.first ≤ code ∧ code ≤ run.last ∧ (code - run.first) % run.step = 0) := by
  unfold lower?
  split <;> simp_all

/-- What a run maps to is not mapped by a run that it avoids. -/
theorem lower?_of_avoids (havoids : run.avoids other = true)
    (himage : run.lower? code = some image) : other.lower? image = none := by
  obtain ⟨⟨hfirst, hlast, hstep⟩, rfl⟩ := lower?_eq_some_iff.mp himage
  rw [lower?_eq_none_iff]
  rintro ⟨hlow, hhigh, hplace⟩
  simp only [avoids, Bool.or_eq_true, Bool.and_eq_true, Nat.blt_eq, beq_iff_eq,
    bne_iff_ne] at havoids
  obtain (hbefore | hbehind) | ⟨⟨hother, hrun⟩, hparity⟩ := havoids
  · omega
  · omega
  · -- both keep their parity: one by its step, the other by its step or for want of a second image
    rw [hother] at hplace
    have heven : (code - run.first) % 2 = 0 := by
      obtain htwo | hsingle := hrun
      · rwa [htwo] at hstep
      · omega
    omega

/-- What such a run maps to is the code point of a character. -/
theorem toNat_ofNat_of_lower? (hlands : run.landsOnChars = true)
    (himage : run.lower? code = some image) : (Char.ofNat image).toNat = image := by
  obtain ⟨⟨hfirst, hlast, -⟩, rfl⟩ := lower?_eq_some_iff.mp himage
  simp only [landsOnChars, Bool.or_eq_true, Bool.and_eq_true, Nat.blt_eq] at hlands
  have hvalid : (run.image + (code - run.first)).isValidChar := by
    obtain hlow | ⟨hhigh, htop⟩ := hlands
    · exact .inl (by omega)
    · exact .inr ⟨by omega, by omega⟩
  rw [Char.ofNat, dif_pos hvalid]
  exact UInt32.toNat_ofNatLT

end CaseRun

/-- All that is mapped: the runs, and the one letter that becomes two. -/
def mappedRuns : List CaseRun :=
  ⟨'İ'.toNat, 'İ'.toNat, 1, 'i'.toNat⟩ :: caseRuns

/-- **No image is mapped**: every run avoids every other and itself. -/
theorem mappedRuns_final :
    (mappedRuns.all fun run => run.landsOnChars && mappedRuns.all run.avoids) = true := by
  decide +kernel

/-! ## Characters -/

/-- A character that is in lower case, whatever stands around it. -/
def IsLower (c : Char) : Prop := c ≠ 'Σ' ∧ lowerChar c = [c]

theorem isLower_of_not_mapped {c : Char} (h : ∀ run ∈ mappedRuns, run.lower? c.toNat = none) :
    IsLower c := by
  have hdotted : c ≠ 'İ' := by
    rintro rfl
    cases h _ List.mem_cons_self
  have hruns : caseRuns.findSome? (·.lower? c.toNat) = none :=
    List.findSome?_eq_none_iff.mpr fun run hrun => h run (List.mem_cons_of_mem _ hrun)
  refine ⟨?_, ?_⟩
  · rintro rfl
    exact absurd hruns (by decide)
  · rw [lowerChar, if_neg hdotted, hruns]

/-- Where a mapping leads is in lower case. -/
theorem isLower_of_lower? {run : CaseRun} (hrun : run ∈ mappedRuns) {code image : Nat}
    (himage : run.lower? code = some image) : IsLower (Char.ofNat image) := by
  have hfinal := List.all_eq_true.mp mappedRuns_final run hrun
  obtain ⟨hlands, havoids⟩ := Bool.and_eq_true_iff.mp hfinal
  refine isLower_of_not_mapped fun other hother => ?_
  rw [CaseRun.toNat_ofNat_of_lower? hlands himage]
  exact CaseRun.lower?_of_avoids (List.all_eq_true.mp havoids other hother) himage

/-- **A letter's own lower case** is in lower case. -/
theorem isLower_of_mem_lowerChar {c d : Char} (h : d ∈ lowerChar c) : IsLower d := by
  unfold lowerChar at h
  split at h
  · rcases List.mem_cons.mp h with rfl | h
    · exact ⟨by decide, by decide⟩
    · cases List.mem_singleton.mp h
      exact ⟨by decide, by decide⟩
  · rename_i hdotted
    cases hfind : caseRuns.findSome? (·.lower? c.toNat) with
    | some image =>
      rw [hfind] at h
      cases List.mem_singleton.mp h
      obtain ⟨run, hrun, himage⟩ := List.exists_of_findSome?_eq_some hfind
      exact isLower_of_lower? (List.mem_cons_of_mem _ hrun) himage
    | none =>
      rw [hfind] at h
      cases List.mem_singleton.mp h
      refine isLower_of_not_mapped fun run hrun => ?_
      rcases List.mem_cons.mp hrun with rfl | hrun
      · rw [CaseRun.lower?_eq_none_iff]
        rintro ⟨hlow, hhigh, -⟩
        exact hdotted (Char.toNat_inj.mp (Nat.le_antisymm hhigh hlow))
      · exact List.findSome?_eq_none_iff.mp hfind run hrun

theorem lowerChar_ne_nil (c : Char) : lowerChar c ≠ [] := by
  unfold lowerChar
  split
  · exact List.cons_ne_nil _ _
  · split <;> exact List.cons_ne_nil _ _

/-! ## Texts -/

/-- All that lower-casing leaves is in lower case. -/
theorem isLower_of_mem_lowerAfter {d : Char} {before chars : List Char}
    (h : d ∈ lowerAfter before chars) : IsLower d := by
  induction chars generalizing before with
  | nil => cases h
  | cons c after ih =>
    rcases List.mem_append.mp h with hhead | htail
    · split at hhead
      · -- a capital sigma has two forms, and both are in lower case
        have hsigma : d = 'ς' ∨ d = 'σ' := by
          have := List.mem_singleton.mp hhead
          split at this
          · exact .inl this
          · exact .inr this
        obtain rfl | rfl := hsigma <;> exact ⟨by decide, by decide⟩
      · exact isLower_of_mem_lowerChar hhead
    · exact ih htail

/-- What is in lower case stays, whatever came before it. -/
theorem lowerAfter_of_isLower {before chars : List Char} (h : ∀ c ∈ chars, IsLower c) :
    lowerAfter before chars = chars := by
  induction chars generalizing before with
  | nil => rfl
  | cons c after ih =>
    obtain ⟨hsigma, hchar⟩ := h c List.mem_cons_self
    rw [lowerAfter, if_neg hsigma, hchar, ih fun d hd => h d (List.mem_cons_of_mem _ hd)]
    rfl

theorem lowerAfter_eq_nil_iff {before chars : List Char} :
    lowerAfter before chars = [] ↔ chars = [] := by
  cases chars with
  | nil => exact ⟨fun _ => rfl, fun _ => rfl⟩
  | cons c after =>
    refine iff_of_false ?_ (List.cons_ne_nil _ _)
    rw [lowerAfter, List.append_eq_nil_iff]
    rintro ⟨hhead, -⟩
    split at hhead
    · cases hhead
    · exact lowerChar_ne_nil c hhead

/-- **Lower case is final.** -/
theorem lowercase_lowercase (text : String) : lowercase (lowercase text) = lowercase text := by
  rw [lowercase, lowercase, String.toList_ofList,
    lowerAfter_of_isLower fun c hc => isLower_of_mem_lowerAfter hc]

/-- A text becomes empty just if it is. -/
theorem lowercase_eq_empty_iff {text : String} : lowercase text = "" ↔ text = "" := by
  rw [lowercase, String.ofList_eq_empty_iff, lowerAfter_eq_nil_iff, String.toList_eq_nil_iff]

end CommandLink.Text
