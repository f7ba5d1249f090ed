import CommandLink.Codec.Feed
import CommandLink.Proofs.Codec.Filling

/-!
# What is drained from a feed

Draining the first bytes of a feed follows what it gives, attempt by attempt
(`Feed.drain_of_gives`), so what becomes of the buffer can be told from where the feed ends, fails,
is interrupted for ever or has given one byte more than was declared. One of these always comes
about (`Feed.exists_brings`), and each of them settles the outcome (`Feed.comesTo_iff`). Filling
from a feed that is never interrupted takes a bounded number of attempts (`Feed.exists_fill`), and
filling from a reader is such a case (`Reader.fill_feed`).
-/

namespace CommandLink

/-- What one feed brings, another brings too that ends, fails and is interrupted for ever after the
same bytes, as far as they are counted, and gives too many if the first does. -/
theorem Outflow.Brings.imp {outflow other : Outflow} {declared : Nat} {buffer : Bytes}
    {outcome : Option Fill}
    (hends : ∀ bytes, bytes.length ≤ declared → outflow.ends bytes → other.ends bytes)
    (hfails : ∀ bytes fault, bytes.length ≤ declared → outflow.fails bytes fault →
      other.fails bytes fault)
    (hstalls : ∀ bytes, bytes.length ≤ declared → outflow.stalls bytes → other.stalls bytes)
    (hgives : ∀ bytes, declared < bytes.length → outflow.gives bytes →
      ∃ more, other.gives more ∧ declared < more.length)
    (h : outflow.Brings declared buffer outcome) : other.Brings declared buffer outcome := by
  cases h with
  | filled hbytes hlength => exact .filled (hends _ (Nat.le_of_eq hlength) hbytes) hlength
  | short hbytes hlength => exact .short (hends _ (Nat.le_of_lt hlength) hbytes) hlength
  | long hbytes hlength =>
    obtain ⟨more, hmore, hlong⟩ := hgives _ hlength hbytes
    exact .long hmore hlong
  | failed hbytes hlength => exact .failed (hfails _ _ hlength hbytes) hlength
  | stalled hbytes hlength => exact .stalled (hstalls _ hlength hbytes) hlength

namespace Feed

variable {σ : Type} {feed : Feed σ} {left declared attempts : Nat} {start state next : σ}
  {buffer bytes : Bytes} {fault : CodecFault}

/-! ## One attempt -/

/-- Once no bytes are left the feed is not asked, whatever it would do. -/
theorem drain_upTo_zero (attempts : Nat) (state : σ) (buffer : Bytes) :
    feed.upTo.drain (attempts + 1) (0, state) buffer = some ⟨buffer, .ok ()⟩ := rfl

/-- At its end, what was given is what there is. -/
theorem drain_upTo_of_end (hleft : left ≠ 0)
    (h : feed.attempt (min Reader.portion left) state = (.ok [], next)) :
    feed.upTo.drain (attempts + 1) (left, state) buffer = some ⟨buffer, .ok ()⟩ := by
  simp only [drain, upTo, if_neg hleft, h]

/-- What is given is appended, and so much less is left. -/
theorem drain_upTo_of_given {b : UInt8} (hleft : left ≠ 0)
    (h : feed.attempt (min Reader.portion left) state = (.ok (b :: bytes), next)) :
    feed.upTo.drain (attempts + 1) (left, state) buffer =
      feed.upTo.drain attempts (left - (b :: bytes).length, next) (buffer ++ b :: bytes) := by
  rw [drain]
  simp only [upTo, if_neg hleft, h]

/-- After an interruption the attempt is made again. -/
theorem drain_upTo_of_interruption (hleft : left ≠ 0)
    (h : feed.attempt (min Reader.portion left) state = (.error fault, next))
    (hagain : fault.isInterruption = true) :
    feed.upTo.drain (attempts + 1) (left, state) buffer =
      feed.upTo.drain attempts (left, next) buffer := by
  rw [drain]
  simp only [upTo, if_neg hleft, h, if_pos hagain]

/-- After any other failure it is not. -/
theorem drain_upTo_of_failure (hleft : left ≠ 0)
    (h : feed.attempt (min Reader.portion left) state = (.error fault, next))
    (hfinal : fault.isInterruption = false) :
    feed.upTo.drain (attempts + 1) (left, state) buffer = some ⟨buffer, .error fault⟩ := by
  simp only [drain, upTo, if_neg hleft, h, hfinal, Bool.false_eq_true, if_false]

/-- One attempt more makes no difference to a result that is there. -/
theorem drain_succ {feed : Feed σ} {filled : Fill}
    (h : feed.drain attempts state buffer = some filled) :
    feed.drain (attempts + 1) state buffer = some filled := by
  fun_induction feed.drain attempts state buffer with
  | case1 => cases h
  | case2 attempts state buffer _ hattempt => rw [← h, drain, hattempt]
  | case3 attempts state buffer b bytes next hattempt ih =>
    rw [drain, hattempt]
    exact ih h
  | case4 attempts state buffer fault next hattempt hagain ih =>
    rw [drain, hattempt]
    exact (if_pos hagain).trans (ih h)
  | case5 attempts state buffer fault next hattempt hfinal =>
    rw [← h, drain, hattempt]
    exact if_neg hfinal

/-- A result that was there after some attempts is there after more. -/
theorem drain_of_le {feed : Feed σ} {more : Nat} {filled : Fill} (hle : attempts ≤ more)
    (h : feed.drain attempts state buffer = some filled) :
    feed.drain more state buffer = some filled := by
  induction hle with
  | refl => exact h
  | step _ ih => exact drain_succ ih

/-! ## What a feed has given -/

/-- No more is given than is asked for: one byte more than was declared. -/
theorem Gives.length_le (h : feed.Gives (asked declared) start bytes state) :
    bytes.length ≤ declared + 1 := by
  induction h with
  | nothing => exact Nat.zero_le _
  | @more bytes _ b chunk _ _ hattempt ih =>
    have hchunk : (b :: chunk).length ≤ declared + 1 - bytes.length :=
      Nat.le_trans (feed.length_le hattempt) (Nat.min_le_right _ _)
    rw [List.length_append]
    omega
  | again _ _ _ ih => exact ih

/-- **Draining follows the feed**: after the attempts that it took, what the feed has given is in
the buffer, and the rest is drained from where it is. -/
theorem drain_of_gives (h : feed.Gives (asked declared) start bytes state) (buffer : Bytes) :
    ∃ made, ∀ attempts, feed.upTo.drain (attempts + made) (declared + 1, start) buffer =
      feed.upTo.drain attempts (declared + 1 - bytes.length, state) (buffer ++ bytes) := by
  induction h with
  | nothing => exact ⟨0, fun attempts => by rw [List.append_nil]; rfl⟩
  | @more bytes _ b chunk _ hgives hattempt ih =>
    obtain ⟨made, hmade⟩ := ih
    have hchunk := (Gives.more hgives hattempt).length_le
    rw [List.length_append, List.length_cons] at hchunk
    have hleft : declared + 1 - bytes.length ≠ 0 := by omega
    refine ⟨made + 1, fun attempts => ?_⟩
    rw [← Nat.add_assoc, Nat.add_right_comm, hmade, drain_upTo_of_given hleft hattempt,
      List.append_assoc, List.length_append, Nat.sub_sub]
  | @again bytes _ _ _ _ hattempt hagain ih =>
    obtain ⟨made, hmade⟩ := ih
    by_cases hleft : declared + 1 - bytes.length = 0
    · -- the feed is not asked any more, in this state or in the other
      refine ⟨made, fun attempts => ?_⟩
      rw [hmade, hleft]
      cases attempts <;> rfl
    · refine ⟨made + 1, fun attempts => ?_⟩
      rw [← Nat.add_assoc, Nat.add_right_comm, hmade,
        drain_upTo_of_interruption hleft hattempt hagain]

/-- A feed that ends in time is drained of all its bytes. -/
theorem exists_drain_of_ends (h : (feed.outflow (asked declared) start).ends bytes)
    (hlength : bytes.length ≤ declared) (buffer : Bytes) :
    ∃ attempts, feed.upTo.drain attempts (declared + 1, start) buffer =
      some ⟨buffer ++ bytes, .ok ()⟩ := by
  obtain ⟨state, next, hgives, hattempt⟩ := h
  obtain ⟨made, hmade⟩ := drain_of_gives hgives buffer
  have hleft : declared + 1 - bytes.length ≠ 0 := by omega
  exact ⟨1 + made, (hmade 1).trans (drain_upTo_of_end hleft hattempt)⟩

/-- A feed that fails in time is drained until then. -/
theorem exists_drain_of_fails (h : (feed.outflow (asked declared) start).fails bytes fault)
    (hlength : bytes.length ≤ declared) (buffer : Bytes) :
    ∃ attempts, feed.upTo.drain attempts (declared + 1, start) buffer =
      some ⟨buffer ++ bytes, .error fault⟩ := by
  obtain ⟨state, next, hgives, hattempt, hfinal⟩ := h
  obtain ⟨made, hmade⟩ := drain_of_gives hgives buffer
  have hleft : declared + 1 - bytes.length ≠ 0 := by omega
  exact ⟨1 + made, (hmade 1).trans (drain_upTo_of_failure hleft hattempt hfinal)⟩

/-- A feed that has given one byte too many is drained no further. -/
theorem exists_drain_of_gives (h : (feed.outflow (asked declared) start).gives bytes)
    (hlength : bytes.length = declared + 1) (buffer : Bytes) :
    ∃ attempts, feed.upTo.drain attempts (declared + 1, start) buffer =
      some ⟨buffer ++ bytes, .ok ()⟩ := by
  obtain ⟨state, hgives⟩ := h
  obtain ⟨made, hmade⟩ := drain_of_gives hgives buffer
  rw [hlength, Nat.sub_self] at hmade
  exact ⟨1 + made, (hmade 1).trans (drain_upTo_zero 0 state _)⟩

/-- A feed that is interrupted for ever before it has given all that is asked for is not drained in
any number of attempts. -/
theorem drain_of_stalls (h : (feed.outflow (asked declared) start).stalls bytes)
    (hlength : bytes.length ≤ declared) (buffer : Bytes) (attempts : Nat) :
    feed.upTo.drain attempts (declared + 1, start) buffer = none := by
  obtain ⟨⟨state, hgives⟩, hinterrupted⟩ := h
  have hleft : declared + 1 - bytes.length ≠ 0 := by omega
  have hendless : ∀ attempts state, feed.Gives (asked declared) start bytes state →
      feed.upTo.drain attempts (declared + 1 - bytes.length, state) (buffer ++ bytes) = none := by
    intro attempts
    induction attempts with
    | zero => exact fun _ _ => rfl
    | succ attempts ih =>
      intro state hgives
      obtain ⟨fault, next, hattempt, hagain⟩ := hinterrupted state hgives
      rw [drain_upTo_of_interruption hleft hattempt hagain]
      exact ih next (hgives.again hattempt hagain)
  obtain ⟨made, hmade⟩ := drain_of_gives hgives buffer
  cases hdrain : feed.upTo.drain attempts (declared + 1, start) buffer with
  | none => rfl
  | some filled =>
    have hlater := drain_of_le (Nat.le_add_right attempts made) hdrain
    rw [hmade, hendless attempts state hgives] at hlater
    cases hlater

/-- A feed that is never interrupted is drained of a number of bytes in one attempt more. -/
theorem exists_drain_upTo (h : feed.Uninterrupted) (left : Nat) (state : σ) (buffer : Bytes) :
    ∃ filled, feed.upTo.drain (left + 1) (left, state) buffer = some filled := by
  induction left using Nat.strongRecOn generalizing state buffer with
  | ind left ih =>
    by_cases hleft : left = 0
    · subst hleft
      exact ⟨_, drain_upTo_zero 0 state buffer⟩
    · cases hattempt : feed.attempt (min Reader.portion left) state with
      | mk answer next =>
        cases answer with
        | error fault => exact ⟨_, drain_upTo_of_failure hleft hattempt (h hattempt)⟩
        | ok chunk =>
          cases chunk with
          | nil => exact ⟨_, drain_upTo_of_end hleft hattempt⟩
          | cons b chunk =>
            have hless : left - (b :: chunk).length < left := by
              rw [List.length_cons]
              omega
            obtain ⟨filled, hfilled⟩ := ih _ hless next (buffer ++ b :: chunk)
            exact ⟨filled, (drain_upTo_of_given hleft hattempt).trans (drain_of_le hless hfilled)⟩

/-! ## What becomes of the buffer -/

/-- A feed that has not given too many bytes yet settles the outcome, or goes on to give more. -/
theorem brings_or_gives_more (hgives : feed.Gives (asked declared) start bytes state)
    (hlength : bytes.length ≤ declared) (buffer : Bytes) :
    (∃ outcome, (feed.outflow (asked declared) start).Brings declared buffer outcome) ∨
      ∃ b chunk next, feed.Gives (asked declared) start (bytes ++ b :: chunk) next := by
  by_cases hstalls : (feed.outflow (asked declared) start).stalls bytes
  · exact .inl ⟨_, .stalled hstalls hlength⟩
  · -- the last of the interruptions, if there are any, is followed by something else
    obtain ⟨last, hlast, hother⟩ : ∃ last, feed.Gives (asked declared) start bytes last ∧
        ¬ ∃ fault next, feed.attempt (asked declared bytes.length) last =
          (.error fault, next) ∧ fault.isInterruption = true :=
      Classical.byContradiction fun hnone =>
        hstalls ⟨⟨state, hgives⟩, fun last hlast =>
          Classical.byContradiction fun hother => hnone ⟨last, hlast, hother⟩⟩
    cases hattempt : feed.attempt (asked declared bytes.length) last with
    | mk answer next =>
      cases answer with
      | error fault =>
        have hfinal : fault.isInterruption = false :=
          Bool.eq_false_iff.mpr fun hagain => hother ⟨fault, next, hattempt, hagain⟩
        exact .inl ⟨_, .failed ⟨last, next, hlast, hattempt, hfinal⟩ hlength⟩
      | ok chunk =>
        cases chunk with
        | nil =>
          have hends : (feed.outflow (asked declared) start).ends bytes :=
            ⟨last, next, hlast, hattempt⟩
          rcases Nat.lt_or_eq_of_le hlength with hshort | hwhole
          · exact .inl ⟨_, .short hends hshort⟩
          · exact .inl ⟨_, .filled hends hwhole⟩
        | cons b chunk => exact .inr ⟨b, chunk, next, hlast.more hattempt⟩

/-- **Something always comes of it**: a feed that goes on giving has given one byte too many in the
end. -/
theorem exists_brings (feed : Feed σ) (start : σ) (declared : Nat) (buffer : Bytes) :
    ∃ outcome, (feed.outflow (asked declared) start).Brings declared buffer outcome := by
  -- by induction on what is left of the bytes that are asked for
  have hfrom : ∀ left bytes state, declared + 1 - bytes.length = left →
      feed.Gives (asked declared) start bytes state →
      ∃ outcome, (feed.outflow (asked declared) start).Brings declared buffer outcome := by
    intro left
    induction left using Nat.strongRecOn with
    | ind left ih =>
      intro bytes state hleft hgives
      by_cases hlong : declared < bytes.length
      · exact ⟨_, .long ⟨state, hgives⟩ hlong⟩
      · rcases brings_or_gives_more hgives (Nat.not_lt.mp hlong) buffer with
          hbrings | ⟨b, chunk, next, hmore⟩
        · exact hbrings
        · refine ih _ ?_ (bytes ++ b :: chunk) next rfl hmore
          rw [List.length_append, List.length_cons]
          omega
  exact hfrom _ [] start rfl .nothing

/-- The limit is one byte more than was declared, where it can be counted. -/
theorem toNat_limit {declared : UInt64} (h : declared.toNat + 1 < UInt64.size) :
    (declared + 1).toNat = declared.toNat + 1 := by
  rw [UInt64.toNat_add]
  exact Nat.mod_eq_of_lt h

/-- **What a feed brings settles the outcome**, whatever would follow. -/
theorem comesTo_of_brings {declared : UInt64} (h : declared.toNat + 1 < UInt64.size)
    {outcome : Option Fill}
    (hbrings : (feed.outflow (asked declared.toNat) start).Brings declared.toNat buffer outcome) :
    feed.ComesTo start declared buffer outcome := by
  have hfilled : ∀ {copied filled : Fill}, copied.whole declared.toNat buffer = filled →
      (∃ attempts, feed.upTo.drain attempts (declared.toNat + 1, start) buffer = some copied) →
      feed.ComesTo start declared buffer (some filled) := by
    rintro copied _ rfl ⟨attempts, hdrain⟩
    refine ⟨attempts, ?_⟩
    rw [fill, toNat_limit h, hdrain, Option.map_some]
  cases hbrings with
  | filled hends hlength =>
    exact hfilled (Fill.whole_of_length_eq hlength)
      (exists_drain_of_ends hends (Nat.le_of_eq hlength) buffer)
  | short hends hlength =>
    exact hfilled (Fill.whole_of_length_ne (Nat.ne_of_lt hlength))
      (exists_drain_of_ends hends (Nat.le_of_lt hlength) buffer)
  | @long bytes hgives hlength =>
    have htotal : bytes.length = declared.toNat + 1 := by
      obtain ⟨_, hgives⟩ := hgives
      exact Nat.le_antisymm hgives.length_le hlength
    rw [← htotal]
    exact hfilled (Fill.whole_of_length_ne (Nat.ne_of_gt hlength))
      (exists_drain_of_gives hgives htotal buffer)
  | @failed bytes fault hfails hlength =>
    exact hfilled (Fill.whole_of_error fault) (exists_drain_of_fails hfails hlength buffer)
  | stalled hstalls hlength =>
    intro attempts
    rw [fill, toNat_limit h, drain_of_stalls hstalls hlength, Option.map_none]

/-- A result that was there after some attempts is there after more. -/
theorem fill_of_le {declared : UInt64} {more : Nat} {filled : Fill} (hle : attempts ≤ more)
    (h : feed.fill attempts state declared buffer = some filled) :
    feed.fill more state declared buffer = some filled := by
  obtain ⟨copied, hcopied, hwhole⟩ := Option.map_eq_some_iff.mp h
  exact Option.map_eq_some_iff.mpr ⟨copied, drain_of_le hle hcopied, hwhole⟩

/-- Filling comes to one outcome only. -/
theorem ComesTo.unique {declared : UInt64} {outcome other : Option Fill}
    (h : feed.ComesTo state declared buffer outcome)
    (hother : feed.ComesTo state declared buffer other) : outcome = other := by
  cases outcome with
  | none =>
    cases other with
    | none => rfl
    | some filled =>
      obtain ⟨attempts, hfilled⟩ := hother
      rw [h attempts] at hfilled
      cases hfilled
  | some filled =>
    obtain ⟨attempts, hfilled⟩ := h
    cases other with
    | none =>
      rw [hother attempts] at hfilled
      cases hfilled
    | some found =>
      obtain ⟨later, hfound⟩ := hother
      rw [← fill_of_le (Nat.le_add_right attempts later) hfilled,
        fill_of_le (Nat.le_add_left later attempts) hfound]

/-- **Filling from a feed** comes to just what the feed brings. -/
theorem comesTo_iff (feed : Feed σ) (start : σ) {declared : UInt64}
    (h : declared.toNat + 1 < UInt64.size) (buffer : Bytes) (outcome : Option Fill) :
    feed.ComesTo start declared buffer outcome ↔
      (feed.outflow (asked declared.toNat) start).Brings declared.toNat buffer outcome := by
  obtain ⟨settled, hsettled⟩ := feed.exists_brings start declared.toNat buffer
  constructor
  · intro houtcome
    rwa [houtcome.unique (comesTo_of_brings h hsettled)]
  · exact comesTo_of_brings h

/-- **Filling from a feed that is never interrupted** takes no more attempts than one for each byte
and two more, even if the feed never comes to an end. -/
theorem exists_fill (huninterrupted : feed.Uninterrupted) (start : σ) {declared : UInt64}
    (h : declared.toNat + 1 < UInt64.size) (buffer : Bytes) :
    ∃ filled, feed.fill (declared.toNat + 2) start declared buffer = some filled := by
  obtain ⟨copied, hcopied⟩ := exists_drain_upTo huninterrupted (declared.toNat + 1) start buffer
  refine ⟨copied.whole declared.toNat buffer, ?_⟩
  rw [fill, toNat_limit h, hcopied, Option.map_some]

end Feed

/-! ## Readers -/

namespace Reader

variable {σ : Type} {reader : Reader σ}

theorem attempt_of_error {room : Nat} {state : σ} {fault : CodecFault}
    (h : reader.read room state = .error fault) :
    reader.feed.attempt room state = (.error fault, state) := by
  simp only [feed, h]

theorem attempt_of_ok {room : Nat} {state next : σ} {bytes : Bytes}
    (h : reader.read room state = .ok (bytes, next)) :
    reader.feed.attempt room state = (.ok (bytes.take room), next) := by
  simp only [feed, h]

/-- A reader's feed is uninterrupted if no failure of the reader is an interruption. -/
theorem uninterrupted_feed (h : ∀ {room state fault}, reader.read room state = .error fault →
    fault.isInterruption = false) : reader.feed.Uninterrupted := by
  intro room state fault next hattempt
  cases hread : reader.read room state with
  | error found =>
    rw [attempt_of_error hread] at hattempt
    cases hattempt
    exact h hread
  | ok answer =>
    rw [attempt_of_ok hread] at hattempt
    cases hattempt

/-- As long as there is room a reader is copied from as its feed is drained. -/
theorem drain_feed (h : reader.feed.Uninterrupted) (room : Nat) (state : σ) (buffer : Bytes) :
    reader.feed.upTo.drain (room + 1) (room, state) buffer =
      some (reader.copy room state buffer) := by
  fun_induction Reader.copy reader room state buffer with
  | case1 state buffer => exact Feed.drain_upTo_zero 0 state buffer
  | case2 room state buffer hroom fault hread =>
    rw [Nat.min_comm] at hread
    have hattempt := attempt_of_error hread
    exact Feed.drain_upTo_of_failure hroom hattempt (h hattempt)
  | case3 room state buffer hroom bytes next hread htake =>
    rw [Nat.min_comm] at hread htake
    exact Feed.drain_upTo_of_end hroom (htake ▸ attempt_of_ok hread)
  | case4 room state buffer hroom bytes next hread b taken htake ih =>
    rw [Nat.min_comm] at hread htake
    rw [Feed.drain_upTo_of_given hroom (htake ▸ attempt_of_ok hread)]
    exact Feed.drain_of_le (by omega) ih

/-- **A reader that is never interrupted** fills a buffer as its feed does. -/
theorem fill_feed (h : reader.feed.Uninterrupted) (state : σ) {declared : UInt64}
    (hdeclared : declared.toNat + 1 < UInt64.size) (buffer : Bytes) :
    reader.feed.fill (declared.toNat + 2) state declared buffer =
      some (reader.fill state declared.toNat buffer) := by
  rw [Feed.fill, Feed.toNat_limit hdeclared, drain_feed h, Option.map_some, fill_eq]

/-! ## Readers that come to an end -/

/-- What an attempt gives is what was read. -/
theorem read_of_attempt_ok {room : Nat} {state next : σ} {bytes : Bytes}
    (h : reader.feed.attempt room state = (.ok bytes, next)) :
    ∃ read, reader.read room state = .ok (read, next) ∧ read.take room = bytes := by
  cases hread : reader.read room state with
  | error fault =>
    rw [attempt_of_error hread] at h
    cases h
  | ok answer =>
    rw [attempt_of_ok hread] at h
    cases h
    exact ⟨answer.1, rfl, rfl⟩

/-- **Copying follows the feed**: what the feed has given is in the buffer, and the rest is copied
from where it is. -/
theorem copy_of_gives {declared : Nat} {start state : σ} {bytes : Bytes}
    (h : reader.feed.Gives (Feed.asked declared) start bytes state) (buffer : Bytes) :
    reader.copy (declared + 1) start buffer =
      reader.copy (declared + 1 - bytes.length) state (buffer ++ bytes) := by
  induction h with
  | nothing => rw [List.append_nil, List.length_nil, Nat.sub_zero]
  | @more bytes state b chunk next hgives hattempt ih =>
    have hchunk := (Feed.Gives.more hgives hattempt).length_le
    rw [List.length_append, List.length_cons] at hchunk
    have hleft : declared + 1 - bytes.length ≠ 0 := by omega
    obtain ⟨read, hread, htake⟩ := read_of_attempt_ok hattempt
    rw [Feed.asked, Nat.min_comm] at hread htake
    rw [ih, copy, if_neg hleft]
    simp only [hread, htake, List.append_assoc, List.length_append, List.length_cons, Nat.sub_sub]
  | @again bytes state fault next hgives hattempt _ ih =>
    -- a reader that failed is as it was before
    have hsame : next = state := by
      cases hread : reader.read (Feed.asked declared bytes.length) state with
      | error other =>
        rw [attempt_of_error hread] at hattempt
        cases hattempt
        rfl
      | ok answer =>
        rw [attempt_of_ok hread] at hattempt
        cases hattempt
    rw [ih, hsame]

/-- **A reader that gives just the bytes that were declared** fills a buffer with them. -/
theorem fill_of_ends {state : σ} {data : Bytes}
    (h : (reader.feed.outflow (Feed.asked data.length) state).ends data) (buffer : Bytes) :
    reader.fill state data.length buffer = ⟨buffer ++ data, .ok ()⟩ := by
  obtain ⟨last, next, hgives, hattempt⟩ := h
  obtain ⟨read, hread, htake⟩ := read_of_attempt_ok hattempt
  rw [Feed.asked, Nat.min_comm] at hread htake
  have hleft : data.length + 1 - data.length ≠ 0 := by omega
  have hcopied : reader.copy (data.length + 1) state buffer = ⟨buffer ++ data, .ok ()⟩ := by
    rw [copy_of_gives hgives, copy, if_neg hleft]
    simp only [hread, htake]
  rw [fill_eq, hcopied]
  exact Fill.whole_of_length_eq rfl

end Reader

end CommandLink
