import CommandLink.Connection.Opening
import CommandLink.Proofs.Connection.Dispatch

/-!
# What opening did

Opening a connection fails with nothing changed where it was opened or closed before, and closes it
otherwise (`error_of_establish`). Opening that succeeded made the stream, connected it, learned a
profile and took it over (`ok_of_establish`).
-/

namespace CommandLink.Connection

variable {σ : Type} {connection : Connection σ} {state next : ConnectionStatus σ}
  {error : LinkError}

/-! ## Failures -/

/-- A closed connection is not opened again. -/
theorem begin_of_closed (connection : Connection σ) (hclosed : state.phase = .closed) :
    connection.begin state = .error (connection.closedError .before) state := by
  unfold begin
  rw [Action.get_bind, hclosed]
  rfl

/-- Nor is one that has been opened before. -/
theorem begin_of_opened (connection : Connection σ)
    (hphase : state.phase = .opening ∨ state.phase = .opened) :
    connection.begin state = .error (.invalidState .alreadyOpened) state := by
  unfold begin
  rw [Action.get_bind]
  rcases hphase with hphase | hphase
  · rw [hphase]
    rfl
  · rw [hphase]
    rfl

theorem begin_of_not_unopened (connection : Connection σ) (hphase : state.phase ≠ .unopened) :
    ∃ fault, connection.begin state = .error fault state := by
  cases hcase : state.phase with
  | unopened => exact absurd hcase hphase
  | opening => exact ⟨_, connection.begin_of_opened (.inl hcase)⟩
  | opened => exact ⟨_, connection.begin_of_opened (.inr hcase)⟩
  | closed => exact ⟨_, connection.begin_of_closed hcase⟩

/-- Making the stream of an unopened connection closes it if it fails. -/
theorem closed_of_begin (hphase : state.phase = .unopened)
    (h : connection.begin state = .error error next) : next.phase = .closed := by
  unfold begin at h
  rw [Action.get_bind, hphase] at h
  dsimp only at h
  rw [Action.modify_bind] at h
  rcases Action.error_of_bind h with h | ⟨_, made, -, h⟩
  · exact error_of_closingOnFailure h
  · rw [Action.modify_bind, Action.get_bind] at h
    split at h
    · rename_i hclosed
      cases h
      have hphase : made.phase = .closed := ConnectionStatus.isClosed_iff.mp hclosed
      unfold shutStream
      split
      · exact hphase
      · exact hphase
    · cases h

/-- Making the stream fails with nothing changed, or closes the connection. -/
theorem error_of_begin (h : connection.begin state = .error error next) :
    next = state ∨ next.phase = .closed := by
  by_cases hphase : state.phase = .unopened
  · exact .inr (closed_of_begin hphase h)
  · obtain ⟨fault, hrefused⟩ := connection.begin_of_not_unopened hphase
    rw [hrefused] at h
    cases h
    exact .inl rfl

/-- **Opening** fails with nothing changed, or closes the connection. -/
theorem error_of_establish {mode : Mode}
    (h : connection.establish mode state = .error error next) :
    next = state ∨ next.phase = .closed := by
  unfold establish at h
  rcases Action.error_of_bind h with h | ⟨_, made, -, h⟩
  · exact error_of_begin h
  · rcases Action.error_of_bind h with h | ⟨_, opened, -, h⟩
    · exact .inr (error_of_closingOnFailure h)
    · cases h

/-! ## Successes -/

/-- The stream of an unopened connection is there once the transport has made one. -/
theorem begin_of_created {made : σ} (hphase : state.phase = .unopened)
    (hcreate : connection.transport.create connection.address state.stream =
      (⟨false, .done ()⟩, made)) :
    connection.begin state = .ok ()
      (({ state with phase := .opening, hasStream := true, stream := made } :
        ConnectionStatus σ).note .created) := by
  have hcall : connection.call .blocking .opening .created
      (connection.transport.create connection.address) { state with phase := .opening } =
        .ok () (({ state with phase := .opening, stream := made } :
          ConnectionStatus σ).note .created) := call_of_answered nofun hcreate
  unfold begin
  rw [Action.get_bind, hphase]
  dsimp only
  rw [Action.modify_bind, Action.bind_of_ok (closingOnFailure_of_ok hcall)]
  rfl

/-- Making the stream succeeds on an unopened connection that is not closed over it. -/
theorem ok_of_begin (h : connection.begin state = .ok () next) :
    state.phase = .unopened ∧ ∃ created,
      connection.call .blocking .opening .created (connection.transport.create connection.address)
        { state with phase := .opening } = .ok () created ∧
      created.phase ≠ .closed ∧ next = { created with hasStream := true } := by
  by_cases hphase : state.phase = .unopened
  · unfold begin at h
    rw [Action.get_bind, hphase] at h
    dsimp only at h
    rw [Action.modify_bind] at h
    obtain ⟨_, created, hcreate, h⟩ := Action.ok_of_bind h
    rw [Action.modify_bind, Action.get_bind] at h
    split at h
    · cases h
    · rename_i hopen
      cases h
      exact ⟨hphase, created, ok_of_closingOnFailure hcreate,
        fun hclosed => hopen (ConnectionStatus.isClosed_iff.mpr hclosed), rfl⟩
  · obtain ⟨fault, hrefused⟩ := connection.begin_of_not_unopened hphase
    rw [hrefused] at h
    cases h

/-- Taking over a profile succeeds while the connection is being opened, and opens it. -/
theorem ok_of_adopt {profile : ConnectionProfile} {result : Unit}
    (h : connection.adopt profile state = .ok result next) :
    state.phase = .opening ∧ ∃ sendCompressor,
      connection.compressors.select profile.compressors = .ok sendCompressor ∧
      next = { state with profile, sendCompressor, phase := .opened } := by
  obtain ⟨sendCompressor, hselect, h⟩ := Action.ok_of_ofResult_bind h
  rw [Action.modify_bind, Action.get_bind] at h
  split at h
  · rename_i hopening
    cases h
    exact ⟨hopening, sendCompressor, hselect, rfl⟩
  · cases h

/-- It does so where a compressor is found. -/
theorem adopt_of_select {profile : ConnectionProfile} {sendCompressor : Option Compressor}
    (hopening : state.phase = .opening)
    (hselect : connection.compressors.select profile.compressors = .ok sendCompressor) :
    connection.adopt profile state =
      .ok () { state with profile, sendCompressor, phase := .opened } := by
  unfold adopt
  rw [Action.ofResult_bind_of_ok hselect, Action.modify_bind, Action.get_bind, if_pos hopening]
  rfl

/-- Where none is, nothing is taken over. -/
theorem adopt_of_select_error {profile : ConnectionProfile}
    (hselect : connection.compressors.select profile.compressors = .error error) :
    connection.adopt profile state = .error error state :=
  Action.ofResult_bind_of_error hselect

/-- Where it fails, the profile may have been taken over already. -/
theorem error_of_adopt {profile : ConnectionProfile}
    (h : connection.adopt profile state = .error error next) :
    ∃ profile sendCompressor, next = { state with profile, sendCompressor } := by
  rcases Action.error_of_bind h with hselect | ⟨sendCompressor, selected, hselect, hopen⟩
  · obtain ⟨-, rfl⟩ := Action.error_of_ofResult hselect
    exact ⟨_, _, rfl⟩
  · obtain ⟨-, rfl⟩ := Action.ok_of_ofResult hselect
    rw [Action.modify_bind, Action.get_bind] at hopen
    split at hopen
    · cases hopen
    · cases hopen
      exact ⟨_, _, rfl⟩

/-- **Opening that succeeded** went through all of its steps. -/
theorem ok_of_establish {mode : Mode} {result : Unit}
    (h : connection.establish mode state = .ok result next) :
    ∃ made connected profile described adopted,
      connection.begin state = .ok () made ∧
      connection.call mode .opening .connected (connection.transport.connect mode) made =
        .ok () connected ∧
      connection.describe mode connected = .ok profile described ∧
      connection.adopt profile described = .ok () adopted ∧
      next = adopted.log .info "opened connection" (openedFields adopted) := by
  obtain ⟨_, made, hbegin, h⟩ := Action.ok_of_bind h
  obtain ⟨_, adopted, hopening, h⟩ := Action.ok_of_bind h
  cases h
  obtain ⟨_, connected, hconnect, hopening⟩ := Action.ok_of_bind (ok_of_closingOnFailure hopening)
  obtain ⟨profile, described, hdescribe, hadopt⟩ := Action.ok_of_bind hopening
  exact ⟨made, connected, profile, described, adopted, hbegin, hconnect, hdescribe, hadopt, rfl⟩

end CommandLink.Connection
