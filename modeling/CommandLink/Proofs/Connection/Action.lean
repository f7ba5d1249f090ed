import CommandLink.Connection.Status

/-!
# Reasoning about actions

What an action ends with is taken apart step by step: a result of `first >>= rest` is one of
`first`, or comes of `rest` after a value of `first`. Operations that let go of a buffer or close
the connection in the end are the operation with a conclusion (`Action.concluding`). A call of the
transport ends in one of four ways, told by its answer.
-/

namespace CommandLink

variable {σ α β : Type}

namespace Action

/-- An operation with a conclusion of its own for either ending. -/
def concluding (onOk : ConnectionStatus σ → ConnectionStatus σ)
    (onError : LinkError → ConnectionStatus σ → ConnectionStatus σ) (operation : Action σ α) :
    Action σ α := fun state =>
  match operation state with
  | .ok value next => .ok value (onOk next)
  | .error error next => .error error (onError error next)

/-- A buffer in hand is let go of in conclusion. -/
theorem holding_eq (buffer : Buffer) (operation : Action σ α) :
    holding buffer operation = concluding (·.drop buffer) (fun _ state => state.drop buffer)
      operation := rfl

/-! ## Results -/

section Results

variable {first : Action σ α} {rest : α → Action σ β} {state mid next : ConnectionStatus σ}

/-- After a value, a sequence goes on. -/
theorem bind_of_ok {a : α} (h : first state = .ok a mid) :
    (first >>= rest) state = rest a mid := by
  simp only [bind, EStateM.bind, h]

/-- After a failure, a sequence has failed. -/
theorem bind_of_error {error : LinkError} (h : first state = .error error mid) :
    (first >>= rest) state = .error error mid := by
  simp only [bind, EStateM.bind, h]

/-- A sequence ends well when both of its parts do. -/
theorem ok_of_bind {value : β} (h : (first >>= rest) state = .ok value next) :
    ∃ a mid, first state = .ok a mid ∧ rest a mid = .ok value next := by
  cases hfirst : first state with
  | ok a mid =>
    rw [bind_of_ok hfirst] at h
    exact ⟨a, mid, rfl, h⟩
  | error fault mid =>
    rw [bind_of_error hfirst] at h
    cases h

/-- A sequence fails where one of its parts does. -/
theorem error_of_bind {error : LinkError} (h : (first >>= rest) state = .error error next) :
    first state = .error error next ∨
      ∃ a mid, first state = .ok a mid ∧ rest a mid = .error error next := by
  cases hfirst : first state with
  | ok a mid =>
    rw [bind_of_ok hfirst] at h
    exact .inr ⟨a, mid, rfl, h⟩
  | error fault mid =>
    rw [bind_of_error hfirst] at h
    cases h
    exact .inl rfl

/-- Sequences that begin alike and go on alike after every value end alike, wherever they start. -/
theorem bind_congr {other : Action σ α} {otherRest : α → Action σ β}
    {otherState : ConnectionStatus σ} (hfirst : first state = other otherState)
    (hrest : ∀ a mid, first state = .ok a mid → rest a mid = otherRest a mid) :
    (first >>= rest) state = (other >>= otherRest) otherState := by
  cases hresult : first state with
  | ok a mid =>
    rw [bind_of_ok hresult, bind_of_ok (hfirst ▸ hresult)]
    exact hrest a mid hresult
  | error fault mid => rw [bind_of_error hresult, bind_of_error (hfirst ▸ hresult)]

theorem get_eq (state : ConnectionStatus σ) :
    (get : Action σ (ConnectionStatus σ)) state = .ok state state := rfl

theorem get_bind (rest : ConnectionStatus σ → Action σ β) (state : ConnectionStatus σ) :
    (get >>= rest) state = rest state state := rfl

theorem modify_bind (change : ConnectionStatus σ → ConnectionStatus σ)
    (rest : PUnit → Action σ β) (state : ConnectionStatus σ) :
    (modify change >>= rest) state = rest ⟨⟩ (change state) := rfl

/-- A computation that has a result changes nothing. -/
theorem ok_of_ofResult {result : Except LinkError α} {value : α}
    (h : ofResult result state = .ok value next) : result = .ok value ∧ next = state := by
  cases result with
  | ok a =>
    cases h
    exact ⟨rfl, rfl⟩
  | error fault => cases h

/-- What comes after a computation comes of its result, in the same state. -/
theorem ok_of_ofResult_bind {result : Except LinkError α} {value : β}
    (h : (ofResult result >>= rest) state = .ok value next) :
    ∃ a, result = .ok a ∧ rest a state = .ok value next := by
  cases result with
  | ok a => exact ⟨a, rfl, h⟩
  | error fault => cases h

/-- A computation that has a result is gone on from in the same state. -/
theorem ofResult_bind_of_ok {result : Except LinkError α} {value : α}
    (h : result = .ok value) : (ofResult result >>= rest) state = rest value state := by
  rw [h]
  rfl

theorem ofResult_bind_of_error {result : Except LinkError α} {error : LinkError}
    (h : result = .error error) : (ofResult result >>= rest) state = .error error state := by
  rw [h]
  rfl

/-- A computation without a result changes nothing either. -/
theorem error_of_ofResult {result : Except LinkError α} {error : LinkError}
    (h : ofResult result state = .error error next) : result = .error error ∧ next = state := by
  cases result with
  | ok a => cases h
  | error fault =>
    cases h
    exact ⟨rfl, rfl⟩

section Concluding

variable {onOk : ConnectionStatus σ → ConnectionStatus σ}
  {onError : LinkError → ConnectionStatus σ → ConnectionStatus σ} {operation : Action σ α}

theorem concluding_of_ok {value : α} (h : operation state = .ok value mid) :
    concluding onOk onError operation state = .ok value (onOk mid) := by
  simp only [concluding, h]

theorem concluding_of_error {error : LinkError} (h : operation state = .error error mid) :
    concluding onOk onError operation state = .error error (onError error mid) := by
  simp only [concluding, h]

/-- Operations that end alike have the same conclusion. -/
theorem concluding_congr {other : Action σ α} {otherState : ConnectionStatus σ}
    (h : operation state = other otherState) :
    concluding onOk onError operation state = concluding onOk onError other otherState := by
  simp only [concluding, h]

/-- A conclusion is drawn from the ending that it belongs to. -/
theorem ok_of_concluding {value : α}
    (h : concluding onOk onError operation state = .ok value next) :
    ∃ mid, operation state = .ok value mid ∧ next = onOk mid := by
  cases hoperation : operation state with
  | ok a mid =>
    rw [concluding_of_ok hoperation] at h
    cases h
    exact ⟨mid, rfl, rfl⟩
  | error fault mid =>
    rw [concluding_of_error hoperation] at h
    cases h

theorem error_of_concluding {error : LinkError}
    (h : concluding onOk onError operation state = .error error next) :
    ∃ mid, operation state = .error error mid ∧ next = onError error mid := by
  cases hoperation : operation state with
  | ok a mid =>
    rw [concluding_of_ok hoperation] at h
    cases h
  | error fault mid =>
    rw [concluding_of_error hoperation] at h
    cases h
    exact ⟨mid, rfl, rfl⟩

end Concluding

/-- What is done with a buffer in hand ends with the buffer let go of. -/
theorem ok_of_holding {buffer : Buffer} {operation : Action σ α} {value : α}
    (h : holding buffer operation state = .ok value next) :
    ∃ mid, operation state = .ok value mid ∧ next = mid.drop buffer := by
  rw [holding_eq] at h
  exact ok_of_concluding h

theorem holding_of_ok {buffer : Buffer} {operation : Action σ α} {value : α}
    (h : operation state = .ok value mid) :
    holding buffer operation state = .ok value (mid.drop buffer) := by
  rw [holding_eq, concluding_of_ok h]

/-- A buffer that is passed on is not touched. -/
theorem ok_of_passing {buffer : Buffer} {result : Except LinkError α} {value : α}
    (h : passing buffer result state = .ok value next) : result = .ok value ∧ next = state := by
  cases result with
  | ok a =>
    cases h
    exact ⟨rfl, rfl⟩
  | error fault => cases h

end Results

end Action

theorem ConnectionStatus.isClosed_iff {state : ConnectionStatus σ} :
    state.isClosed = true ↔ state.phase = .closed := decide_eq_true_iff

/-- What is so of a state in which an event was told, and outlasts lines in the log, is so once its
listener has said all that it has to say. -/
theorem ConnectionStatus.tell_of_told {P : ConnectionStatus σ → Prop} {state : ConnectionStatus σ}
    (hlogged : ∀ state record, P state → P (state.note (.logged record))) {event : CommandEvent}
    (htold : P (state.note (.told event))) (listener : Listener) :
    P (state.tell (some listener) event) := by
  have hall : ∀ (records : List LogRecord) (told : ConnectionStatus σ), P told →
      P (records.foldl (fun state record => state.note (.logged record)) told) := by
    intro records
    induction records with
    | nil => exact fun _ htold => htold
    | cons record rest ih => exact fun told htold => ih _ (hlogged told record htold)
  exact hall _ _ htold

/-- A state in which messages can be exchanged. -/
structure ConnectionStatus.Usable (state : ConnectionStatus σ) : Prop where
  notClosed : state.phase ≠ .closed
  hasStream : state.hasStream = true

namespace Connection

variable {connection : Connection σ} {state next : ConnectionStatus σ}

/-! ## Closing -/

/-- Closing a closed connection does nothing. -/
theorem shut_of_closed (hclosed : state.phase = .closed) : connection.shut state = state := by
  unfold shut
  rw [if_pos (ConnectionStatus.isClosed_iff.mpr hclosed)]

/-- Closing a connection moves its phase, closes a stream that is there, and is written down. -/
theorem shut_eq (connection : Connection σ) (state : ConnectionStatus σ) :
    ∃ stream journal, connection.shut state = { state with phase := .closed, stream, journal } ∧
      (stream = state.stream ∨ stream = connection.transport.close state.stream) := by
  by_cases hclosed : state.phase = .closed
  · rw [shut_of_closed hclosed, ← hclosed]
    exact ⟨_, _, rfl, .inl rfl⟩
  · unfold shut shutStream
    rw [if_neg fun h => hclosed (ConnectionStatus.isClosed_iff.mp h)]
    split
    · exact ⟨_, _, rfl, .inr rfl⟩
    · exact ⟨_, _, rfl, .inl rfl⟩

@[simp] theorem phase_shut (connection : Connection σ) (state : ConnectionStatus σ) :
    (connection.shut state).phase = .closed := by
  obtain ⟨_, _, hshut, -⟩ := connection.shut_eq state
  rw [hshut]

@[simp] theorem hasStream_shut (connection : Connection σ) (state : ConnectionStatus σ) :
    (connection.shut state).hasStream = state.hasStream := by
  obtain ⟨_, _, hshut, -⟩ := connection.shut_eq state
  rw [hshut]

@[simp] theorem profile_shut (connection : Connection σ) (state : ConnectionStatus σ) :
    (connection.shut state).profile = state.profile := by
  obtain ⟨_, _, hshut, -⟩ := connection.shut_eq state
  rw [hshut]

/-- What closes the connection when it fails is the operation itself where it succeeds. -/
theorem closingOnFailure_eq (operation : Action σ α) :
    connection.closingOnFailure operation =
      Action.concluding id (fun _ => connection.shut) operation := rfl

theorem error_of_closingOnFailure {operation : Action σ α} {error : LinkError}
    (h : connection.closingOnFailure operation state = .error error next) :
    next.phase = .closed := by
  rw [closingOnFailure_eq] at h
  obtain ⟨mid, -, rfl⟩ := Action.error_of_concluding h
  exact connection.phase_shut mid

theorem closingOnFailure_of_ok {operation : Action σ α} {value : α}
    (h : operation state = .ok value next) :
    connection.closingOnFailure operation state = .ok value next := by
  rw [closingOnFailure_eq, Action.concluding_of_ok h, id]

theorem closingOnFailure_of_error {operation : Action σ α} {error : LinkError}
    (h : operation state = .error error next) :
    connection.closingOnFailure operation state = .error error (connection.shut next) :=
  Action.concluding_of_error h

theorem ok_of_closingOnFailure {operation : Action σ α} {value : α}
    (h : connection.closingOnFailure operation state = .ok value next) :
    operation state = .ok value next := by
  rw [closingOnFailure_eq] at h
  obtain ⟨mid, hoperation, rfl⟩ := Action.ok_of_concluding h
  exact hoperation

/-! ## Calls -/

/-- The state after a transport was called: its answer may have closed the connection. -/
def met (connection : Connection σ) (happening : Happening) (perform : σ → Answer α × σ)
    (state : ConnectionStatus σ) : ConnectionStatus σ :=
  let called := { state with stream := (perform state.stream).2 }.note happening
  if (perform state.stream).1.closes then connection.shut called else called

section Calls

variable {mode : Mode} {stage : Stage} {happening : Happening} {perform : σ → Answer α × σ}

/-- A call is begun on a connection that is not closed. -/
theorem begun_of_not_closed (hopen : state.phase ≠ .closed) :
    ¬ (mode = .awaited ∧ state.isClosed) :=
  fun h => hopen (ConnectionStatus.isClosed_iff.mp h.2)

/-- An awaited call is not begun on a closed connection. -/
theorem call_of_refused (hrefused : mode = .awaited ∧ state.isClosed) :
    connection.call mode stage happening perform state =
      .error (connection.closedError .whilePending) state := by
  unfold call
  rw [if_pos hrefused]

theorem call_of_done {value : α} (hbegun : ¬ (mode = .awaited ∧ state.isClosed))
    (houtcome : (perform state.stream).1.outcome = .done value) :
    connection.call mode stage happening perform state =
      .ok value (connection.met happening perform state) := by
  simp only [call, if_neg hbegun, houtcome, met]

/-- A call that is answered, the connection not being closed over it, goes on with the stream. -/
theorem call_of_answered {value : α} {stream : σ} (hopen : state.phase ≠ .closed)
    (hanswer : perform state.stream = (⟨false, .done value⟩, stream)) :
    connection.call mode stage happening perform state =
      .ok value ({ state with stream }.note happening) := by
  rw [call_of_done (begun_of_not_closed hopen) (by rw [hanswer]), met, hanswer]
  rfl

theorem call_of_failed {failure : TransportError} (hbegun : ¬ (mode = .awaited ∧ state.isClosed))
    (houtcome : (perform state.stream).1.outcome = .failed failure) :
    connection.call mode stage happening perform state =
      .error (connection.failureOf (connection.met happening perform state) stage failure)
        (connection.met happening perform state) := by
  simp only [call, if_neg hbegun, houtcome, met]

/-- A call that stalls ends with the connection closed. -/
theorem call_of_stalled (hbegun : ¬ (mode = .awaited ∧ state.isClosed))
    (houtcome : (perform state.stream).1.outcome = .stalled) :
    connection.call mode stage happening perform state =
      .error (connection.closedError .whilePending)
        ((connection.shut (connection.met happening perform state)).note .waited) := by
  simp only [call, if_neg hbegun, houtcome, met]

/-- A call that ends well was met with a value. -/
theorem ok_of_call {value : α}
    (h : connection.call mode stage happening perform state = .ok value next) :
    (perform state.stream).1.outcome = .done value ∧
      next = connection.met happening perform state := by
  by_cases hrefused : mode = .awaited ∧ state.isClosed
  · rw [call_of_refused hrefused] at h
    cases h
  · cases houtcome : (perform state.stream).1.outcome with
    | done a =>
      rw [call_of_done hrefused houtcome] at h
      cases h
      exact ⟨rfl, rfl⟩
    | failed failure =>
      rw [call_of_failed hrefused houtcome] at h
      cases h
    | stalled =>
      rw [call_of_stalled hrefused houtcome] at h
      cases h

end Calls

/-! ## Beginning -/

/-- An operation on messages is begun in a usable state. -/
theorem requireStream_of_usable (connection : Connection σ) (husable : state.Usable) :
    connection.requireStream state = .ok () state := by
  unfold requireStream
  rw [Action.get_bind, if_neg fun h => husable.notClosed (ConnectionStatus.isClosed_iff.mp h),
    if_neg (by simp [husable.hasStream])]
  rfl

/-- In any other state it is refused and changes nothing. -/
theorem requireStream_of_not_usable (connection : Connection σ) (husable : ¬ state.Usable) :
    ∃ fault, connection.requireStream state = .error fault state := by
  unfold requireStream
  rw [Action.get_bind]
  by_cases hclosed : state.isClosed
  · rw [if_pos hclosed]
    exact ⟨_, rfl⟩
  · rw [if_neg hclosed]
    cases hstream : state.hasStream with
    | true =>
      exact absurd ⟨fun h => hclosed (ConnectionStatus.isClosed_iff.mpr h), hstream⟩ husable
    | false => exact ⟨_, rfl⟩

/-- An operation on messages is refused on a closed connection. -/
theorem requireStream_bind_of_closed (connection : Connection σ) {rest : Unit → Action σ α}
    (hclosed : state.phase = .closed) :
    (connection.requireStream >>= rest) state = .error (connection.closedError .before) state := by
  refine Action.bind_of_error ?_
  unfold requireStream
  rw [Action.get_bind, if_pos (ConnectionStatus.isClosed_iff.mpr hclosed)]
  rfl

/-- What begins well begins in a usable state and goes on in it. -/
theorem ok_of_requireStream_bind {rest : Unit → Action σ α} {value : α}
    (h : (connection.requireStream >>= rest) state = .ok value next) :
    state.Usable ∧ rest () state = .ok value next := by
  by_cases husable : state.Usable
  · rw [Action.bind_of_ok (connection.requireStream_of_usable husable)] at h
    exact ⟨husable, h⟩
  · obtain ⟨fault, hrefused⟩ := connection.requireStream_of_not_usable husable
    rw [Action.bind_of_error hrefused] at h
    cases h

/-- What fails was refused, with nothing changed, or fails later. -/
theorem error_of_requireStream_bind {rest : Unit → Action σ α}
    (h : (connection.requireStream >>= rest) state = .error error next) :
    next = state ∨ (state.Usable ∧ rest () state = .error error next) := by
  by_cases husable : state.Usable
  · rw [Action.bind_of_ok (connection.requireStream_of_usable husable)] at h
    exact .inr ⟨husable, h⟩
  · obtain ⟨fault, hrefused⟩ := connection.requireStream_of_not_usable husable
    rw [Action.bind_of_error hrefused] at h
    cases h
    exact .inl rfl

end Connection

end CommandLink
