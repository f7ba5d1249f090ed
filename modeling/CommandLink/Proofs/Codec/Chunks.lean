import CommandLink.Proofs.Codec.Feed

/-!
# Chunks, however they are cut

What a feed of chunks gives is the chunks put together, whatever the portions in which it is asked
for them (`Chunks.reaches_of_gives`, `Chunks.gives_of_reaches`).
-/

namespace CommandLink

namespace Chunks

variable {chunks : Chunks} {declared count index room : Nat} {bytes chunk given : Bytes}
  {state next : Bytes × Nat} {fault : CodecFault}

/-! ## The first deliveries -/

theorem first_succ (chunks : Chunks) (count : Nat) :
    chunks.first (count + 1) =
      chunks.first count ++ (chunks.delivery count).toOption.getD [] := by
  simp only [first, List.range_succ, List.flatMap_append, List.flatMap_singleton]

theorem reaches_zero (chunks : Chunks) : chunks.Reaches 0 [] :=
  ⟨fun _ hlt => absurd hlt (Nat.not_lt_zero _), rfl⟩

theorem reaches_succ_iff :
    chunks.Reaches (count + 1) bytes ↔ ∃ before, chunks.Reaches count before ∧
      GoesOn (chunks.delivery count) ∧
      bytes = before ++ (chunks.delivery count).toOption.getD [] := by
  constructor
  · rintro ⟨hgoes, rfl⟩
    exact ⟨chunks.first count, ⟨fun index hlt => hgoes index (Nat.lt_succ_of_lt hlt), rfl⟩,
      hgoes count (Nat.lt_succ_self count), chunks.first_succ count⟩
  · rintro ⟨_, ⟨hgoes, rfl⟩, hlast, rfl⟩
    refine ⟨fun index hlt => ?_, (chunks.first_succ count).symm⟩
    rcases Nat.lt_succ_iff_lt_or_eq.mp hlt with hbefore | rfl
    · exact hgoes index hbefore
    · exact hlast

/-- A chunk that is not the end comes after those before. -/
theorem Reaches.add_chunk (h : chunks.Reaches count bytes)
    (hdelivery : chunks.delivery count = .ok chunk) (hchunk : chunk ≠ []) :
    chunks.Reaches (count + 1) (bytes ++ chunk) := by
  refine reaches_succ_iff.mpr ⟨bytes, h, ?_, ?_⟩
  · rw [hdelivery]
    exact hchunk
  · rw [hdelivery]
    rfl

/-- An interruption adds nothing. -/
theorem Reaches.add_interruption (h : chunks.Reaches count bytes)
    (hdelivery : chunks.delivery count = .error fault) (hagain : fault.isInterruption = true) :
    chunks.Reaches (count + 1) bytes := by
  refine reaches_succ_iff.mpr ⟨bytes, h, ?_, ?_⟩
  · rw [hdelivery]
    exact hagain
  · rw [hdelivery]
    exact (List.append_nil bytes).symm

/-- More deliveries bring no fewer bytes. -/
theorem length_first_le {more : Nat} (h : count ≤ more) :
    (chunks.first count).length ≤ (chunks.first more).length := by
  induction h with
  | refl => exact Nat.le_refl _
  | step _ ih =>
    rw [first_succ, List.length_append]
    exact Nat.le_trans ih (Nat.le_add_right _ _)

/-! ## One attempt -/

theorem upcoming_of_ne_nil (h : bytes ≠ []) :
    chunks.upcoming (bytes, index) = (.ok bytes, index) := by
  cases bytes with
  | nil => exact absurd rfl h
  | cons b bytes => rfl

theorem upcoming_of_delivery_ok (h : chunks.delivery index = .ok chunk) :
    chunks.upcoming ([], index) = (.ok chunk, index + 1) := congrArg (·, index + 1) h

theorem attempt_of_upcoming_ok (h : chunks.upcoming state = (.ok chunk, index)) (room : Nat) :
    chunks.feed.attempt room state = (.ok (chunk.take room), (chunk.drop room, index)) := by
  simp only [feed, h]

/-- When nothing is left of the chunks before, a failure is handed on. -/
theorem attempt_of_delivery_error (h : chunks.delivery index = .error fault) (room : Nat) :
    chunks.feed.attempt room ([], index) = (.error fault, ([], index + 1)) := by
  simp only [feed, upcoming, h]

/-- What is given is the front of what comes next. -/
theorem upcoming_of_attempt_ok (h : chunks.feed.attempt room state = (.ok given, next)) :
    ∃ chunk, chunks.upcoming state = (.ok chunk, next.2) ∧ given = chunk.take room ∧
      next.1 = chunk.drop room := by
  simp only [feed] at h
  split at h
  · rename_i chunk _ hupcoming
    cases h
    exact ⟨chunk, hupcoming, rfl, rfl⟩
  · cases h

/-- A failure comes when all chunks before it have been taken. -/
theorem eq_of_attempt_error (h : chunks.feed.attempt room state = (.error fault, next)) :
    state = ([], state.2) ∧ chunks.delivery state.2 = .error fault ∧
      next = ([], state.2 + 1) := by
  obtain ⟨pending, index⟩ := state
  cases pending with
  | nil =>
    cases hdelivery : chunks.delivery index with
    | ok chunk =>
      simp only [feed, upcoming, hdelivery] at h
      cases h
    | error fault =>
      simp only [feed, upcoming, hdelivery] at h
      cases h
      exact ⟨rfl, rfl, rfl⟩
  | cons b pending => cases h

/-- What comes next is a new chunk, or what has not been taken yet of the last one. -/
theorem Reaches.upcoming (h : chunks.Reaches state.2 (bytes ++ state.1))
    (hupcoming : chunks.upcoming state = (.ok chunk, index)) (hchunk : chunk ≠ []) :
    chunks.Reaches index (bytes ++ chunk) := by
  obtain ⟨pending, position⟩ := state
  cases pending with
  | nil =>
    obtain ⟨hdelivery, rfl⟩ := Prod.mk.inj hupcoming
    rw [List.append_nil] at h
    exact h.add_chunk hdelivery hchunk
  | cons b pending =>
    cases hupcoming
    exact h

/-! ## What a feed of chunks gives -/

/-- **What has been given** is the first deliveries, but for what has not been taken of the last. -/
theorem reaches_of_gives {ask : Nat → Nat} (h : chunks.feed.Gives ask start bytes state) :
    chunks.Reaches state.2 (bytes ++ state.1) := by
  induction h with
  | nothing => exact chunks.reaches_zero
  | more _ hattempt ih =>
    obtain ⟨chunk, hupcoming, hgiven, hrest⟩ := upcoming_of_attempt_ok hattempt
    have hchunk : chunk ≠ [] := by
      rintro rfl
      rw [List.take_nil] at hgiven
      cases hgiven
    rw [hgiven, hrest, List.append_assoc, List.take_append_drop]
    exact ih.upcoming hupcoming hchunk
  | again _ hattempt hagain ih =>
    obtain ⟨hstate, hdelivery, rfl⟩ := eq_of_attempt_error hattempt
    rw [hstate, List.append_nil] at ih
    rw [List.append_nil]
    exact ih.add_interruption hdelivery hagain

theorem asked_pos (h : bytes.length ≤ declared) : 0 < Feed.asked declared bytes.length := by
  have hportion : 0 < Reader.portion := by decide
  unfold Feed.asked
  omega

/-- Of the chunk that comes next a portion is given. -/
theorem gives_portion (hgives : chunks.feed.Gives (Feed.asked declared) start bytes state)
    (hupcoming : chunks.upcoming state = (.ok chunk, index)) (hchunk : chunk ≠ [])
    (hlength : bytes.length ≤ declared) :
    chunks.feed.Gives (Feed.asked declared) start
      (bytes ++ chunk.take (Feed.asked declared bytes.length))
      (chunk.drop (Feed.asked declared bytes.length), index) := by
  have hattempt := attempt_of_upcoming_ok hupcoming (Feed.asked declared bytes.length)
  cases htake : chunk.take (Feed.asked declared bytes.length) with
  | nil =>
    have hroom : Feed.asked declared bytes.length ≠ 0 := Nat.ne_of_gt (asked_pos hlength)
    exact absurd ((List.take_eq_nil_iff.mp htake).resolve_left hroom) hchunk
  | cons b rest => exact hgives.more (htake ▸ hattempt)

/-- Of the chunk that comes next so much is given as is asked for, in one portion or in many. -/
theorem gives_upcoming (hgives : chunks.feed.Gives (Feed.asked declared) start bytes state)
    (hupcoming : chunks.upcoming state = (.ok chunk, index)) (hchunk : chunk ≠ [])
    (hlength : bytes.length ≤ declared) :
    chunks.feed.Gives (Feed.asked declared) start
      (bytes ++ chunk.take (declared + 1 - bytes.length))
      (chunk.drop (declared + 1 - bytes.length), index) := by
  induction hsize : chunk.length using Nat.strongRecOn generalizing bytes state chunk with
  | ind size ih =>
    let room := Feed.asked declared bytes.length
    have hroom : 0 < room := asked_pos hlength
    have hle : room ≤ declared + 1 - bytes.length := Nat.min_le_right _ _
    have hportion : chunks.feed.Gives (Feed.asked declared) start
        (bytes ++ chunk.take room) (chunk.drop room, index) :=
      gives_portion hgives hupcoming hchunk hlength
    by_cases hrest : chunk.drop room = [] ∨ room = declared + 1 - bytes.length
    · -- nothing more is asked for, or there is nothing more
      have hall : chunk.take room = chunk.take (declared + 1 - bytes.length) ∧
          chunk.drop room = chunk.drop (declared + 1 - bytes.length) := by
        rcases hrest with hnone | hsame
        · have hshort := List.drop_eq_nil_iff.mp hnone
          have hfits := Nat.le_trans hshort hle
          rw [List.take_of_length_le hshort, List.take_of_length_le hfits, hnone,
            List.drop_eq_nil_iff.mpr hfits]
          exact ⟨rfl, rfl⟩
        · rw [← hsame]
          exact ⟨rfl, rfl⟩
      rwa [hall.1, hall.2] at hportion
    · obtain ⟨hmore, hne⟩ := not_or.mp hrest
      have hlong : room < chunk.length := by
        rwa [List.drop_eq_nil_iff, Nat.not_le] at hmore
      have htaken : (bytes ++ chunk.take room).length = bytes.length + room := by
        rw [List.length_append, List.length_take, Nat.min_eq_left (Nat.le_of_lt hlong)]
      have hnext := ih _ (by rw [List.length_drop]; omega) hportion
        (upcoming_of_ne_nil hmore) hmore (by omega) rfl
      have hsum : room + (declared + 1 - (bytes ++ chunk.take room).length) =
          declared + 1 - bytes.length := by omega
      rwa [List.append_assoc, ← List.take_add, List.drop_drop, hsum] at hnext

/-- **The first deliveries are given**, one after the other, if they are no more than is asked for.
-/
theorem gives_of_reaches (h : chunks.Reaches count bytes) (hlength : bytes.length ≤ declared) :
    chunks.feed.Gives (Feed.asked declared) start bytes ([], count) := by
  induction count generalizing bytes with
  | zero =>
    obtain ⟨-, rfl⟩ := h
    exact .nothing
  | succ count ih =>
    obtain ⟨before, hbefore, hgoes, rfl⟩ := reaches_succ_iff.mp h
    rw [List.length_append] at hlength
    have hgives := ih hbefore (by omega)
    cases hdelivery : chunks.delivery count with
    | ok chunk =>
      rw [hdelivery] at hgoes hlength
      have hupcoming := upcoming_of_delivery_ok hdelivery
      have hfits : chunk.length ≤ declared + 1 - before.length := by
        have hsum : before.length + chunk.length ≤ declared := hlength
        omega
      have hall := gives_upcoming hgives hupcoming hgoes (by omega)
      rwa [List.take_of_length_le hfits, List.drop_eq_nil_iff.mpr hfits] at hall
    | error fault =>
      rw [hdelivery] at hgoes
      have hagain := hgives.again (attempt_of_delivery_error hdelivery _) hgoes
      rwa [← List.append_nil before] at hagain

/-- If they are more, one byte too many is given. -/
theorem gives_too_many (h : chunks.Reaches count bytes) (hlength : declared < bytes.length) :
    ∃ more state, chunks.feed.Gives (Feed.asked declared) start more state ∧
      declared < more.length := by
  induction count generalizing bytes with
  | zero =>
    obtain ⟨-, rfl⟩ := h
    exact absurd hlength (Nat.not_lt_zero _)
  | succ count ih =>
    obtain ⟨before, hbefore, hgoes, rfl⟩ := reaches_succ_iff.mp h
    by_cases hlong : declared < before.length
    · exact ih hbefore hlong
    · have hgives := gives_of_reaches hbefore (Nat.not_lt.mp hlong)
      rw [List.length_append] at hlength
      cases hdelivery : chunks.delivery count with
      | ok chunk =>
        rw [hdelivery] at hgoes hlength
        have hsum : declared < before.length + chunk.length := hlength
        have hupcoming := upcoming_of_delivery_ok hdelivery
        refine ⟨_, _, gives_upcoming hgives hupcoming hgoes (Nat.not_lt.mp hlong), ?_⟩
        rw [List.length_append, List.length_take]
        omega
      | error fault =>
        rw [hdelivery] at hlength
        exact absurd hlength hlong

/-- Where nothing but interruptions follows, nothing is added to what was given. -/
theorem length_first_le_of_stalls (h : chunks.Reaches count bytes)
    (hendless : ∀ index ≥ count, ∃ fault, chunks.delivery index = .error fault ∧
      fault.isInterruption = true) (index : Nat) :
    (chunks.first index).length ≤ bytes.length := by
  rw [h.2]
  rcases Nat.le_total index count with hle | hge
  · exact length_first_le hle
  · induction hge with
    | refl => exact Nat.le_refl _
    | @step index hge ih =>
      obtain ⟨fault, hdelivery, -⟩ := hendless index hge
      rw [first_succ, hdelivery]
      simpa [Except.toOption] using ih

theorem stalls_of_stalls (h : chunks.outflow.stalls bytes) (hlength : bytes.length ≤ declared) :
    (chunks.feed.outflow (Feed.asked declared) start).stalls bytes := by
  obtain ⟨count, hreaches, hendless⟩ := h
  refine ⟨⟨_, gives_of_reaches hreaches hlength⟩, ?_⟩
  rintro ⟨pending, index⟩ hgives
  have hbound := length_first_le_of_stalls hreaches hendless
  have hnow := reaches_of_gives hgives
  have hpending : pending = [] := by
    have hle := hbound index
    rw [← hnow.2, List.length_append] at hle
    exact List.eq_nil_of_length_eq_zero (by simp only at hle; omega)
  subst hpending
  rw [List.append_nil] at hnow
  have hgoes : GoesOn (chunks.delivery index) := by
    rcases Nat.lt_or_ge index count with hlt | hge
    · exact hreaches.1 index hlt
    · obtain ⟨fault, hdelivery, hagain⟩ := hendless index hge
      rw [hdelivery]
      exact hagain
  cases hdelivery : chunks.delivery index with
  | ok chunk =>
    -- a chunk would make it more bytes than ever come
    rw [hdelivery] at hgoes
    have hle := hbound (index + 1)
    rw [← (hnow.add_chunk hdelivery hgoes).2, List.length_append] at hle
    exact absurd (List.eq_nil_of_length_eq_zero (by omega)) hgoes
  | error fault =>
    rw [hdelivery] at hgoes
    exact ⟨fault, ([], index + 1), attempt_of_delivery_error hdelivery _, hgoes⟩

theorem stalls_of_feed_stalls
    (h : (chunks.feed.outflow (Feed.asked declared) start).stalls bytes) :
    chunks.outflow.stalls bytes := by
  obtain ⟨⟨⟨pending, count⟩, hgives⟩, hinterrupted⟩ := h
  have hlater : ∀ index ≥ count, chunks.feed.Gives (Feed.asked declared) start bytes
      ([], index) ∧ ∃ fault, chunks.delivery index = .error fault ∧
        fault.isInterruption = true := by
    intro index hge
    induction hge with
    | refl =>
      obtain ⟨fault, next, hattempt, hagain⟩ := hinterrupted _ hgives
      obtain ⟨hstate, hdelivery, -⟩ := eq_of_attempt_error hattempt
      exact ⟨hstate ▸ hgives, fault, hdelivery, hagain⟩
    | @step index _ ih =>
      obtain ⟨hstill, fault, hdelivery, hagain⟩ := ih
      have hafter := hstill.again (attempt_of_delivery_error hdelivery _) hagain
      obtain ⟨fault, next, hattempt, hagain⟩ := hinterrupted _ hafter
      obtain ⟨-, hdelivery, -⟩ := eq_of_attempt_error hattempt
      exact ⟨hafter, fault, hdelivery, hagain⟩
  have hreaches := reaches_of_gives (hlater count (Nat.le_refl _)).1
  rw [List.append_nil] at hreaches
  exact ⟨count, hreaches, fun index hge => (hlater index hge).2⟩

/-- A feed of chunks ends with the chunks. -/
theorem ends_of_feed_ends (hlength : bytes.length ≤ declared)
    (hgives : chunks.feed.Gives (Feed.asked declared) start bytes state)
    (hattempt : chunks.feed.attempt (Feed.asked declared bytes.length) state =
      (.ok [], next)) : chunks.outflow.ends bytes := by
  obtain ⟨chunk, hupcoming, htaken, -⟩ := upcoming_of_attempt_ok hattempt
  have hroom : Feed.asked declared bytes.length ≠ 0 := Nat.ne_of_gt (asked_pos hlength)
  have hchunk : chunk = [] := (List.take_eq_nil_iff.mp htaken.symm).resolve_left hroom
  subst hchunk
  have hreaches := reaches_of_gives hgives
  obtain ⟨pending, count⟩ := state
  cases pending with
  | nil =>
    rw [List.append_nil] at hreaches
    exact ⟨count, hreaches, (Prod.mk.inj hupcoming).1⟩
  | cons b pending => cases hupcoming

/-- **However chunks are cut**, they bring the same. -/
theorem brings_iff (chunks : Chunks) (declared : Nat) (buffer : Bytes) (outcome : Option Fill) :
    (chunks.feed.outflow (Feed.asked declared) start).Brings declared buffer outcome ↔
      chunks.outflow.Brings declared buffer outcome := by
  constructor
  · refine Outflow.Brings.imp ?_ ?_ ?_ ?_
    · rintro bytes hlength ⟨state, next, hgives, hattempt⟩
      exact ends_of_feed_ends hlength hgives hattempt
    · rintro bytes fault - ⟨state, next, hgives, hattempt, hfinal⟩
      have hreaches := reaches_of_gives hgives
      obtain ⟨hstate, hdelivery, -⟩ := eq_of_attempt_error hattempt
      rw [hstate, List.append_nil] at hreaches
      exact ⟨state.2, hreaches, hdelivery, hfinal⟩
    · intro bytes _ hstalls
      exact stalls_of_feed_stalls hstalls
    · rintro bytes hlength ⟨state, hgives⟩
      refine ⟨bytes ++ state.1, ⟨state.2, reaches_of_gives hgives⟩, ?_⟩
      rw [List.length_append]
      omega
  · refine Outflow.Brings.imp ?_ ?_ ?_ ?_
    · rintro bytes hlength ⟨count, hreaches, hdelivery⟩
      refine ⟨([], count), ([], count + 1), gives_of_reaches hreaches hlength, ?_⟩
      simp only [feed, upcoming, hdelivery, List.take_nil, List.drop_nil]
    · rintro bytes fault hlength ⟨count, hreaches, hdelivery, hfinal⟩
      exact ⟨([], count), ([], count + 1), gives_of_reaches hreaches hlength,
        attempt_of_delivery_error hdelivery _, hfinal⟩
    · intro bytes hlength hstalls
      exact stalls_of_stalls hstalls hlength
    · rintro bytes hlength ⟨count, hreaches⟩
      obtain ⟨more, state, hgives, hlong⟩ := gives_too_many hreaches hlength
      exact ⟨more, ⟨state, hgives⟩, hlong⟩

end Chunks

end CommandLink
