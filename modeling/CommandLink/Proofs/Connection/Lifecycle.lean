import Mathlib.Data.List.Chain
import CommandLink.Connection.Ready
import CommandLink.Proofs.Connection.Stages

/-!
# The life of a connection

A session takes a connection through many states: those that its operations leave behind, and those
that opening goes through on its way. From one to the next the connection makes one move at most,
and it is in order all the way (`passes_of_passage`). So its stream was made and connected at most
once, and closed once just if the connection is closed (`life_of_connection`).
-/

namespace CommandLink

variable {σ : Type}

namespace Connection

open ConnectionStatus

variable {connection : Connection σ} {state next : ConnectionStatus σ}

/-! ## What is gone through -/

/-- The states that an operation goes through on its way. -/
def stages (connection : Connection σ) :
    Operation → ConnectionStatus σ → List (ConnectionStatus σ)
  | .establish mode, state =>
    [connection.begin.after state, (connection.connecting mode).after state,
      (connection.describing mode).after state]
  | _, _ => []

/-- All states that a session goes through. -/
def passage (connection : Connection σ) :
    List Operation → ConnectionStatus σ → List (ConnectionStatus σ)
  | [], _ => []
  | operation :: rest, state =>
    let next := (operation.perform connection).after state
    connection.stages operation state ++ next :: connection.passage rest next

/-- Anything but opening is done with messages and buffers, or closes the connection. -/
theorem intact_of_perform (connection : Connection σ) {operation : Operation}
    (hother : ∀ mode, operation ≠ .establish mode) (state : ConnectionStatus σ) :
    Intact state ((operation.perform connection).after state) := by
  have hlasting := connection.lasting_intact
  cases operation with
  | establish mode => exact absurd rfl (hother mode)
  | command mode message decode => exact connection.intact_of_command mode message decode state
  | send mode bytes requestId => exact connection.intact_of_send mode bytes requestId state
  | receive mode responseTo => exact connection.intact_of_receive mode responseTo state
  | borrow size => exact hlasting.keeps_borrowBuffer (fun before => .note rfl before) state
  | drop buffer => exact hlasting.drop state buffer
  | close => exact hlasting.shut state

theorem stages_eq_nil (connection : Connection σ) {operation : Operation}
    (hother : ∀ mode, operation ≠ .establish mode) (state : ConnectionStatus σ) :
    connection.stages operation state = [] := by
  cases operation with
  | establish mode => exact absurd rfl (hother mode)
  | command mode message decode => rfl
  | send mode bytes requestId => rfl
  | receive mode responseTo => rfl
  | borrow size => rfl
  | drop buffer => rfl
  | close => rfl

/-- **An operation** goes move by move, in order all the way. -/
theorem passes_of_perform (connection : Connection σ) (operation : Operation)
    (horder : InOrder state) :
    let next := (operation.perform connection).after state
    ((state :: connection.stages operation state) ++ [next]).IsChain Advances ∧
      ∀ passed ∈ connection.stages operation state ++ [next], InOrder passed := by
  intro next
  by_cases hopening : ∃ mode, operation = .establish mode
  · obtain ⟨mode, rfl⟩ := hopening
    have hmade := (connection.brings_begin horder).inOrder fun _ h => h.inOrder .created
    have hconnected :=
      (connection.brings_connecting mode horder).inOrder fun _ h => h.inOrder .connected
    have hdescribed :=
      (connection.brings_describing mode horder).inOrder fun _ h => h.inOrder .connected
    constructor
    · exact .cons_cons (connection.advances_begin state)
        (.cons_cons (connection.advances_connecting mode state)
          (.cons_cons (connection.advances_describing mode state)
            (.cons_cons (connection.advances_establish mode state) (.singleton next))))
    · simp only [stages, List.cons_append, List.nil_append, List.forall_mem_cons]
      exact ⟨hmade, hconnected, hdescribed, connection.inOrder_of_establish mode horder,
        fun _ hmem => absurd hmem List.not_mem_nil⟩
  · have hother : ∀ mode, operation ≠ .establish mode := fun mode h => hopening ⟨mode, h⟩
    have hintact := connection.intact_of_perform hother state
    rw [connection.stages_eq_nil hother]
    refine ⟨.cons_cons hintact.advances (.singleton next), fun passed hmem => ?_⟩
    cases List.mem_singleton.mp hmem
    exact horder.of_intact hintact

/-- **A session** does so too. -/
theorem passes_of_passage (connection : Connection σ) (operations : List Operation)
    (horder : InOrder state) :
    (state :: connection.passage operations state).IsChain Advances ∧
      ∀ passed ∈ connection.passage operations state, InOrder passed := by
  induction operations generalizing state with
  | nil => exact ⟨.singleton state, fun _ hmem => absurd hmem List.not_mem_nil⟩
  | cons operation rest ih =>
    let next := (operation.perform connection).after state
    obtain ⟨hchain, hall⟩ := connection.passes_of_perform operation horder
    obtain ⟨hrest, hpassed⟩ := ih (hall next (List.mem_append_right _ (List.mem_singleton_self _)))
    have hpassage : connection.passage (operation :: rest) state =
        connection.stages operation state ++ [next] ++ connection.passage rest next :=
      (List.append_assoc _ [next] _).symm
    rw [hpassage]
    -- the state that an operation leaves is where the rest of the session starts
    refine ⟨hchain.append_overlap hrest (List.cons_ne_nil _ _), fun passed hmem => ?_⟩
    rcases List.mem_append.mp hmem with hmem | hmem
    · exact hall passed hmem
    · exact hpassed passed hmem

/-- It ends where the session leaves the connection. -/
theorem run_mem_passage (connection : Connection σ) (operations : List Operation)
    (state : ConnectionStatus σ) :
    (connection.run operations state).1 ∈ state :: connection.passage operations state := by
  induction operations generalizing state with
  | nil => exact List.mem_singleton_self state
  | cons operation rest ih =>
    have hrest := ih ((operation.perform connection).after state)
    rw [← fst_step] at hrest
    refine List.mem_cons_of_mem _ (List.mem_append_right _ ?_)
    rw [← fst_step]
    exact hrest

/-! ## What a life comes to -/

namespace IsCourse

variable {hasStream : Bool} {course : List Turn}

theorem count_created (h : IsCourse hasStream course) : course.count .created ≤ 1 := by
  cases h <;> decide

theorem count_connected (h : IsCourse hasStream course) : course.count .connected ≤ 1 := by
  cases h <;> decide

theorem count_shut (h : IsCourse hasStream course) :
    course.count .shut = if hasStream = true then 1 else 0 := by
  cases h <;> decide

end IsCourse

/-- **The stream was closed once** just if it was made and the connection is closed. -/
theorem InOrder.closings_eq (h : InOrder state) :
    state.closings = if state.phase = .closed ∧ state.hasStream = true then 1 else 0 := by
  have hshut := h.course.count_shut
  by_cases hclosed : state.phase = .closed
  · rw [course_of_closed hclosed] at hshut
    simp only [closings, hshut, hclosed, true_and]
  · rw [if_neg fun hboth => hclosed hboth.1]
    cases hstream : state.hasStream with
    | false =>
      rw [course_of_not_hasStream hstream, hstream] at hshut
      exact hshut
    | true =>
      rw [course_of_usable ⟨hclosed, hstream⟩, hstream, List.count_append] at hshut
      exact Nat.succ.inj hshut

/-- **Opening that fails** leaves the connection closed, unless it was opened before. -/
theorem closed_of_establish {mode : Mode} {error : LinkError}
    (h : connection.establish mode state = .error error next) :
    next.phase = .closed ∨ (state.phase = .opening ∨ state.phase = .opened) ∧
      error = .invalidState .alreadyOpened ∧ next = state := by
  have hbefore : (state.phase = .opening ∨ state.phase = .opened) →
      error = .invalidState .alreadyOpened ∧ next = state := by
    intro hphase
    unfold establish at h
    rw [Action.bind_of_error (connection.begin_of_opened hphase)] at h
    cases h
    exact ⟨rfl, rfl⟩
  cases hphase : state.phase with
  | unopened =>
    left
    rcases Action.error_of_bind h with hbegin | ⟨_, made, -, h⟩
    · exact closed_of_begin hphase hbegin
    · rcases Action.error_of_bind h with hopening | ⟨_, opened, -, hlog⟩
      · exact error_of_closingOnFailure hopening
      · cases hlog
  | opening => exact .inr ⟨.inl rfl, hbefore (.inl hphase)⟩
  | opened => exact .inr ⟨.inr rfl, hbefore (.inr hphase)⟩
  | closed =>
    unfold establish at h
    rw [Action.bind_of_error (connection.begin_of_closed hphase)] at h
    cases h
    exact .inl hphase

end Connection

/-- **The life of a connection.** Whatever is done with it and whatever its transport does, a
connection goes from unopened over opening to open, or from anywhere to closed, one move at a time.
In all that it goes through its stream is made and connected at most once, it has been closed once
if there is one and the connection is closed and never otherwise, and there is no compressor for
sending before the connection is open. There is a stream from the call on that makes it, if that
gives one. Opening that fails leaves the connection closed, unless it was opened before. Closed, it
refuses all that makes or uses a stream, and nothing changes. -/
theorem life_of_connection (connection : Connection σ) (stream : σ) (counters : Counters)
    (operations : List Operation) :
    let start := connection.start stream counters
    let passed := start :: connection.passage operations start
    (connection.run operations start).1 ∈ passed ∧
    passed.IsChain (fun state next =>
      next.phase = state.phase ∨ state.phase.Moves next.phase) ∧
    ∀ state ∈ passed,
      state.turns.count .created ≤ 1 ∧ state.turns.count .connected ≤ 1 ∧
      state.closings = (if state.phase = .closed ∧ state.hasStream = true then 1 else 0) ∧
      (state.phase = .unopened ∨ state.phase = .opening → state.sendCompressor = none) ∧
      (state.phase = .unopened → ((connection.begin.after state).hasStream = true ↔
        ∃ made, (connection.transport.create connection.address state.stream).1.outcome =
          .done made)) ∧
      (∀ mode error next, connection.establish mode state = .error error next →
        next.phase = .closed ∨ (state.phase = .opening ∨ state.phase = .opened) ∧
          error = .invalidState .alreadyOpened ∧ next = state) ∧
      (state.phase = .closed →
        (∀ operation : Operation, operation.usesStream = true →
          operation.perform connection state = .error (connection.closedError .before) state) ∧
        connection.close state = .ok () state) := by
  intro start passed
  have hstart : Connection.InOrder start :=
    ⟨Connection.IsCourse.unmade, fun _ => rfl, fun _ => rfl⟩
  obtain ⟨hchain, hpassed⟩ := connection.passes_of_passage operations hstart
  refine ⟨connection.run_mem_passage operations start, hchain, fun state hmem => ?_⟩
  have horder : Connection.InOrder state := by
    rcases List.mem_cons.mp hmem with rfl | hmem
    · exact hstart
    · exact hpassed state hmem
  have hclose : state.phase = .closed → connection.close state = .ok () state := by
    intro hclosed
    have hshut : connection.shut state = state := Connection.shut_of_closed hclosed
    exact congrArg (EStateM.Result.ok PUnit.unit) hshut
  exact ⟨(state.count_turns_le _).trans horder.course.count_created,
    (state.count_turns_le _).trans horder.course.count_connected, horder.closings_eq,
    horder.sendCompressor, connection.hasStream_begin_iff horder,
    fun mode error next h => Connection.closed_of_establish h,
    fun hclosed => ⟨fun operation huses => Connection.refused_of_closed hclosed huses,
      hclose hclosed⟩⟩

/-- A connection that was opened and closed twice has closed its stream once, and is not opened
again. -/
theorem life_of_connection_ready :
    let connection := ReadyPeer.connection .empty
    let final := (connection.run [.establish .awaited, .close, .close]
      (connection.start (.having []) .initial)).1
    final.phase = .closed ∧ final.closings = 1 ∧
      connection.establish .blocking final = .error (connection.closedError .before) final := by
  obtain ⟨hpassed, -, hall⟩ := life_of_connection (ReadyPeer.connection .empty) (.having []) .initial
    [.establish .awaited, .close, .close]
  obtain ⟨-, -, hclosings, -, -, -, hrefuses⟩ := hall _ hpassed
  obtain ⟨hrefused, -⟩ := hrefuses rfl
  exact ⟨rfl, hclosings, hrefused (.establish .blocking) rfl⟩

end CommandLink
