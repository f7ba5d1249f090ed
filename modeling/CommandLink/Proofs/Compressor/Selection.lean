import Mathlib.Data.List.Induction
import Mathlib.Logic.Function.Basic
import CommandLink.Compressor.Selection

/-!
# Choosing compressors

Two searches run over the compressors of a connection. The one for sending goes by the names that
the server advertises, in the server's order, and takes the first compressor of the first name that
is known (`CompressorSelection.select_eq_some_iff`). The one for receiving goes by number and takes
the last compressor of it (`CompressorSelection.get?_eq_some_iff`). They break ties in opposite
ways, and yet what the first gives the second finds again, in number, name and method
(`choosing_consistent`).
-/

namespace CommandLink

/-- What a compressor unpacks depends on its method alone. -/
theorem Compressor.uncompress_of_method_eq {compressor other : Compressor}
    (h : other.method = compressor.method) : other.uncompress = compressor.uncompress := by
  funext data declared buffer
  unfold uncompress
  rw [h]

namespace CompressorSelection

variable {choices : List CompressorChoice} {selection : CompressorSelection}
  {compressor : Compressor}

/-! ## What was asked for -/

/-- The compressor is made of the first choice of a name. -/
def IsFirstNamed (choices : List CompressorChoice) (name : String) (compressor : Compressor) :
    Prop :=
  ∃ before choice after, choices = before ++ choice :: after ∧ choice.method.name = name ∧
    (∀ earlier ∈ before, earlier.method.name ≠ name) ∧ choice.create = compressor

/-- The compressor is made of the last choice of a number. -/
def IsLastNumbered (choices : List CompressorChoice) (id : UInt8) (compressor : Compressor) :
    Prop :=
  ∃ before choice after, choices = before ++ choice :: after ∧ choice.method.id = id ∧
    (∀ later ∈ after, later.method.id ≠ id) ∧ choice.create = compressor

/-- The name is the first advertised one that is known. -/
def IsFirstKnown (known advertised : List String) (name : String) : Prop :=
  ∃ passed others, advertised = passed ++ name :: others ∧ name ∈ known ∧
    ∀ other ∈ passed, other ∉ known

/-- A table of compressors by number: each choice is entered in its turn, in the place of what stood
there before. -/
def tabled (choices : List CompressorChoice) : UInt8 → Option Compressor :=
  choices.foldl
    (fun table choice => Function.update table choice.method.id (some choice.create))
    fun _ => none

/-- The names that are offered are those of the methods that were asked for. -/
theorem names_ofChoices (choices : List CompressorChoice) :
    (ofChoices choices).names = choices.map (·.method.name) := by
  simp only [names, ofChoices, List.map_map, List.map_inj_left, Function.comp, Compressor.name,
    CompressorChoice.method_create, implies_true]

/-! ## By name -/

/-- The compressor of a name is made of the first choice of it. -/
theorem named?_eq_some_iff {name : String} :
    (ofChoices choices).named? name = some compressor ↔ IsFirstNamed choices name compressor := by
  unfold named? ofChoices IsFirstNamed
  simp only [List.find?_map, Option.map_eq_some_iff, List.find?_eq_some_iff_append,
    Function.comp_apply, Compressor.name, CompressorChoice.method_create, decide_eq_true_eq,
    Bool.not_eq_true', decide_eq_false_iff_not]
  constructor
  · rintro ⟨choice, ⟨hname, before, after, hchoices, hearlier⟩, hcreate⟩
    exact ⟨before, choice, after, hchoices, hname, hearlier, hcreate⟩
  · rintro ⟨before, choice, after, hchoices, hname, hearlier, hcreate⟩
    exact ⟨choice, ⟨hname, before, after, hchoices, hearlier⟩, hcreate⟩

/-- There is none of a name just if the name is not offered. -/
theorem named?_eq_none_iff {name : String} :
    selection.named? name = none ↔ name ∉ selection.names := by
  simp only [named?, names, List.find?_eq_none, decide_eq_true_eq, List.mem_map, not_exists,
    not_and]

/-- Just where nothing was advertised no compressor is chosen. -/
theorem eq_none_iff_of_select {advertised : List String} {chosen : Option Compressor}
    (h : selection.select advertised = .ok chosen) : chosen = none ↔ advertised = [] := by
  unfold select at h
  split at h
  · rename_i hempty
    cases h
    exact ⟨fun _ => List.isEmpty_iff.mp hempty, fun _ => rfl⟩
  · rename_i hsome
    split at h
    · cases h
      exact ⟨nofun, fun hnone => absurd (List.isEmpty_iff.mpr hnone) hsome⟩
    · cases h

/-- The search by name over what was advertised. -/
theorem select_eq_some_iff_findSome? {advertised : List String} :
    selection.select advertised = .ok (some compressor) ↔
      advertised.findSome? selection.named? = some compressor := by
  unfold select
  cases advertised with
  | nil => simp
  | cons name others =>
    cases (name :: others).findSome? selection.named? <;> simp

/-- **Which compressor is chosen for sending**: the first one of the first advertised name that is
known. -/
theorem select_eq_some_iff {advertised : List String} :
    (ofChoices choices).select advertised = .ok (some compressor) ↔
      ∃ name, IsFirstKnown (ofChoices choices).names advertised name ∧
        IsFirstNamed choices name compressor := by
  rw [select_eq_some_iff_findSome?, List.findSome?_eq_some_iff]
  constructor
  · rintro ⟨passed, name, others, hadvertised, hnamed, hpassed⟩
    have hknown : name ∈ (ofChoices choices).names := by
      refine Decidable.byContradiction fun hunknown => ?_
      rw [named?_eq_none_iff.mpr hunknown] at hnamed
      cases hnamed
    exact ⟨name, ⟨passed, others, hadvertised, hknown,
      fun other hother => named?_eq_none_iff.mp (hpassed other hother)⟩,
      named?_eq_some_iff.mp hnamed⟩
  · rintro ⟨name, ⟨passed, others, hadvertised, -, hpassed⟩, hfirst⟩
    exact ⟨passed, name, others, hadvertised, named?_eq_some_iff.mpr hfirst,
      fun other hother => named?_eq_none_iff.mpr (hpassed other hother)⟩

/-- **When there is one for sending**: some advertised name is known. -/
theorem exists_select_eq_some_iff {advertised : List String} :
    (∃ compressor, selection.select advertised = .ok (some compressor)) ↔
      ∃ name ∈ advertised, name ∈ selection.names := by
  simp only [select_eq_some_iff_findSome?, ← Option.isSome_iff_exists,
    List.findSome?_isSome_iff]
  refine exists_congr fun name => and_congr_right fun _ => ?_
  rw [← Option.ne_none_iff_isSome, ne_eq, named?_eq_none_iff, not_not]

/-- Nothing is chosen just if nothing was advertised. -/
theorem select_eq_none_iff {advertised : List String} :
    selection.select advertised = .ok none ↔ advertised = [] := by
  constructor
  · exact fun h => (eq_none_iff_of_select h).mp rfl
  · rintro rfl
    rfl

/-- **When a server is refused**: it advertises something, and nothing that is known. The error
lists what it advertised. -/
theorem select_eq_error_iff {advertised : List String} {error : LinkError} :
    selection.select advertised = .error error ↔
      error = .unsupportedCompressor (.nothingShared advertised) ∧ advertised ≠ [] ∧
        ∀ name ∈ advertised, name ∉ selection.names := by
  have hnone : advertised.findSome? selection.named? = none ↔
      ∀ name ∈ advertised, name ∉ selection.names := by
    simp only [List.findSome?_eq_none_iff, named?_eq_none_iff]
  rw [← hnone]
  unfold select
  cases advertised with
  | nil => simp
  | cons name others =>
    cases (name :: others).findSome? selection.named? with
    | some compressor => simp
    | none => simpa using eq_comm

/-! ## By number -/

/-- **Which compressor has a number**: the last one that was asked for. -/
theorem get?_eq_some_iff {id : UInt8} :
    (ofChoices choices).get? id = some compressor ↔ IsLastNumbered choices id compressor := by
  unfold get? ofChoices IsLastNumbered
  simp only [← List.map_reverse, List.find?_map, Option.map_eq_some_iff,
    List.find?_eq_some_iff_append, Function.comp_apply, Compressor.id,
    CompressorChoice.method_create, decide_eq_true_eq, Bool.not_eq_true',
    decide_eq_false_iff_not]
  constructor
  · rintro ⟨choice, ⟨hid, later, earlier, hreverse, hlater⟩, hcreate⟩
    refine ⟨earlier.reverse, choice, later.reverse, ?_, hid, ?_, hcreate⟩
    · rw [← List.reverse_reverse choices, hreverse]
      simp
    · simpa using hlater
  · rintro ⟨earlier, choice, later, rfl, hid, hlater, hcreate⟩
    refine ⟨choice, ⟨hid, later.reverse, earlier.reverse, ?_, ?_⟩, hcreate⟩
    · simp
    · simpa using hlater

/-- There is one of a number just if it was asked for. -/
theorem isSome_get?_iff {id : UInt8} :
    ((ofChoices choices).get? id).isSome = true ↔ ∃ choice ∈ choices, choice.method.id = id := by
  simp [get?, ofChoices, Compressor.id]

/-- Looking for the last compressor of a number is looking the number up in the table. -/
theorem get?_eq_tabled (choices : List CompressorChoice) :
    (ofChoices choices).get? = tabled choices := by
  induction choices using List.reverseRecOn with
  | nil => rfl
  | append_singleton choices choice ih =>
    rw [tabled, List.foldl_append, List.foldl_cons, List.foldl_nil, ← tabled, ← ih]
    funext id
    by_cases hid : choice.method.id = id
    · subst hid
      simp [get?, ofChoices, Compressor.id]
    · simp [get?, ofChoices, Compressor.id, Function.update_of_ne (Ne.symm hid), hid]

/-- A compressor of a connection is found by its number, or another one of its method is. -/
theorem require_of_mem (hmem : compressor ∈ selection.ordered) :
    ∃ found, selection.require compressor.id = .ok found ∧
      found.method = compressor.method := by
  cases hget : selection.get? compressor.id with
  | none =>
    have hnone := List.find?_eq_none.mp hget compressor (List.mem_reverse.mpr hmem)
    exact absurd (decide_eq_true rfl) hnone
  | some found =>
    have hid := List.find?_some hget
    refine ⟨found, ?_, CompressionMethod.id_injective (of_decide_eq_true hid)⟩
    unfold require
    rw [hget]

/-- What is chosen for sending is a compressor of the connection. -/
theorem mem_of_select {advertised : List String}
    (h : selection.select advertised = .ok (some compressor)) : compressor ∈ selection.ordered := by
  obtain ⟨-, name, -, -, hnamed, -⟩ :=
    List.findSome?_eq_some_iff.mp (select_eq_some_iff_findSome?.mp h)
  exact List.mem_of_find?_eq_some hnamed

end CompressorSelection

/-! ## The two together -/

open CompressorSelection in
/-- **Choosing by name and finding by number** are what they should be, and agree, for any choices
and any advertised names. Nothing is chosen just if nothing is advertised. A compressor is chosen
just if an advertised name is known, and then it is the first one that was asked for of the first
such name. Otherwise the server is refused. A number has a compressor just if one was asked for, and
then the last, as if it were looked up in a table. Whatever is chosen for sending is found by its
number as one of the same number and name, which unpacks the same. -/
theorem choosing_consistent (choices : List CompressorChoice) (advertised : List String) :
    let selection := ofChoices choices
    (selection.select advertised = .ok none ↔ advertised = []) ∧
    ((∃ compressor, selection.select advertised = .ok (some compressor)) ↔
      ∃ name ∈ advertised, name ∈ selection.names) ∧
    (∀ compressor, selection.select advertised = .ok (some compressor) ↔
      ∃ name, IsFirstKnown selection.names advertised name ∧ compressor.name = name ∧
        IsFirstNamed choices name compressor) ∧
    (∀ error, selection.select advertised = .error error ↔
      error = .unsupportedCompressor (.nothingShared advertised) ∧ advertised ≠ [] ∧
        ∀ name ∈ advertised, name ∉ selection.names) ∧
    (∀ id, (selection.get? id).isSome = true ↔ ∃ choice ∈ choices, choice.method.id = id) ∧
    (∀ id compressor, selection.get? id = some compressor ↔
      IsLastNumbered choices id compressor) ∧
    selection.get? = tabled choices ∧
    ∀ compressor, selection.select advertised = .ok (some compressor) →
      ∃ found, selection.require compressor.id = .ok found ∧ found.id = compressor.id ∧
        found.name = compressor.name ∧ found.uncompress = compressor.uncompress := by
  intro selection
  refine ⟨select_eq_none_iff, exists_select_eq_some_iff, fun compressor => ?_,
    fun error => select_eq_error_iff, fun id => isSome_get?_iff, fun id compressor =>
    get?_eq_some_iff, get?_eq_tabled choices, fun compressor hselect => ?_⟩
  · rw [select_eq_some_iff]
    refine exists_congr fun name => and_congr_right fun _ => ?_
    refine ⟨fun hfirst => ⟨?_, hfirst⟩, fun hboth => hboth.2⟩
    obtain ⟨-, choice, -, -, hname, -, rfl⟩ := hfirst
    rw [Compressor.name, CompressorChoice.method_create, hname]
  · obtain ⟨found, hfound, hmethod⟩ := require_of_mem (mem_of_select hselect)
    refine ⟨found, hfound, ?_, ?_, Compressor.uncompress_of_method_eq hmethod⟩
    · rw [Compressor.id, Compressor.id, hmethod]
    · rw [Compressor.name, Compressor.name, hmethod]

/-- Of two levels of one method the first sends and the second receives. -/
theorem choosing_consistent_zlib :
    let selection := CompressorSelection.ofChoices
      [{ method := .zlib, level := .fastest }, { method := .zlib, level := .best }]
    selection.select ["zstd", "zlib"] = .ok (some ⟨.zlib, 1⟩) ∧
      selection.require 2 = .ok ⟨.zlib, 9⟩ ∧
      ∃ found, selection.require (Compressor.id ⟨.zlib, 1⟩) = .ok found ∧
        found.name = Compressor.name ⟨.zlib, 1⟩ := by
  intro selection
  obtain ⟨-, -, -, -, -, -, -, hfound⟩ := choosing_consistent
    [{ method := .zlib, level := .fastest }, { method := .zlib, level := .best }] ["zstd", "zlib"]
  obtain ⟨found, hrequire, -, hname, -⟩ := hfound ⟨.zlib, 1⟩ rfl
  exact ⟨rfl, rfl, found, hrequire, hname⟩

end CommandLink
