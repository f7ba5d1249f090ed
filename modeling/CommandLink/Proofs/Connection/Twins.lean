import CommandLink.Proofs.Connection.Exchange

/-!
# Two runs side by side

Two runs end alike if they give the same value or the same error and leave related states
(`EndsAlike`). The relation of most use tells of states that differ in the log alone
(`ConnectionStatus.SameButLog`). No action on messages reads the log, so from such states each of
them ends alike (`Action.Blind`).
-/

namespace CommandLink

variable {σ α β : Type}

/-- Two endings are alike: the same value or the same error, and related states. -/
inductive EndsAlike (R : ConnectionStatus σ → ConnectionStatus σ → Prop) :
    EStateM.Result LinkError (ConnectionStatus σ) α →
      EStateM.Result LinkError (ConnectionStatus σ) α → Prop
  | ok {state other : ConnectionStatus σ} (value : α) (h : R state other) :
      EndsAlike R (.ok value state) (.ok value other)
  | error {state other : ConnectionStatus σ} (error : LinkError) (h : R state other) :
      EndsAlike R (.error error state) (.error error other)

namespace EndsAlike

variable {R : ConnectionStatus σ → ConnectionStatus σ → Prop} {state other : ConnectionStatus σ}

/-- Sequences whose first parts end alike do so too, if they go on alike after every value. -/
theorem bind {first second : Action σ α} {rest otherRest : α → Action σ β}
    (hfirst : EndsAlike R (first state) (second other))
    (hrest : ∀ a mid otherMid, first state = .ok a mid → R mid otherMid →
      EndsAlike R (rest a mid) (otherRest a otherMid)) :
    EndsAlike R ((first >>= rest) state) ((second >>= otherRest) other) := by
  cases hresult : first state with
  | ok a mid =>
    rw [hresult] at hfirst
    cases hother : second other with
    | ok b otherMid =>
      rw [hother] at hfirst
      cases hfirst with
      | ok _ h =>
        rw [Action.bind_of_ok hresult, Action.bind_of_ok hother]
        exact hrest a mid otherMid hresult h
    | error fault otherMid =>
      rw [hother] at hfirst
      cases hfirst
  | error fault mid =>
    rw [hresult] at hfirst
    cases hother : second other with
    | ok b otherMid =>
      rw [hother] at hfirst
      cases hfirst
    | error otherFault otherMid =>
      rw [hother] at hfirst
      cases hfirst with
      | error _ h =>
        rw [Action.bind_of_error hresult, Action.bind_of_error hother]
        exact .error fault h

/-- Conclusions that keep the relation leave endings alike. -/
theorem concluding {onOk otherOnOk : ConnectionStatus σ → ConnectionStatus σ}
    {onError otherOnError : LinkError → ConnectionStatus σ → ConnectionStatus σ}
    {first second : Action σ α} (h : EndsAlike R (first state) (second other))
    (hok : ∀ mid otherMid, R mid otherMid → R (onOk mid) (otherOnOk otherMid))
    (herror : ∀ error mid otherMid, R mid otherMid →
      R (onError error mid) (otherOnError error otherMid)) :
    EndsAlike R (Action.concluding onOk onError first state)
      (Action.concluding otherOnOk otherOnError second other) := by
  unfold Action.concluding
  generalize first state = ending at h
  generalize second other = otherEnding at h
  cases h with
  | ok value h => exact .ok value (hok _ _ h)
  | error fault h => exact .error fault (herror fault _ _ h)

/-- A computation ends alike wherever it is done. -/
theorem ofResult (result : Except LinkError α) (h : R state other) :
    EndsAlike R (Action.ofResult result state) (Action.ofResult result other) := by
  cases result with
  | ok value => exact .ok value h
  | error fault => exact .error fault h

end EndsAlike

/-! ## States that differ in the log -/

/-- Whether an entry of the journal is more than a line of the log. -/
def Happening.isDeed : Happening → Bool
  | logged _ => false
  | _ => true

/-- States that are the same but for the lines of their logs. -/
def ConnectionStatus.SameButLog (state other : ConnectionStatus σ) : Prop :=
  ∃ journal, other = { state with journal } ∧
    journal.filter Happening.isDeed = state.journal.filter Happening.isDeed

namespace ConnectionStatus.SameButLog

variable {state other : ConnectionStatus σ}

theorem refl (state : ConnectionStatus σ) : state.SameButLog state := ⟨_, rfl, rfl⟩

/-- What is written down in both keeps them the same. -/
theorem note (h : state.SameButLog other) (happening : Happening) :
    (state.note happening).SameButLog (other.note happening) := by
  obtain ⟨journal, rfl, hjournal⟩ := h
  refine ⟨journal ++ [happening], rfl, ?_⟩
  show (journal ++ [happening]).filter _ = (state.journal ++ [happening]).filter _
  rw [List.filter_append, List.filter_append, hjournal]

/-- A line of the log in one of them does so too. -/
theorem log (state : ConnectionStatus σ) (level : LogLevel) (message : String)
    (fields : List (String × String)) : state.SameButLog (state.log level message fields) := by
  refine ⟨_, rfl, ?_⟩
  show (state.journal ++ [_]).filter _ = _
  rw [List.filter_append]
  exact List.append_nil _

/-- A change that has nothing to do with the journal keeps them the same. -/
theorem change (h : state.SameButLog other) (f : ConnectionStatus σ → ConnectionStatus σ)
    (hf : ∀ (before : ConnectionStatus σ) journal,
      f { before with journal } = { f before with journal }) : (f state).SameButLog (f other) := by
  obtain ⟨journal, rfl, hjournal⟩ := h
  refine ⟨journal, hf state journal, ?_⟩
  rw [hjournal, hf state state.journal]

theorem drop (h : state.SameButLog other) (buffer : Buffer) :
    (state.drop buffer).SameButLog (other.drop buffer) :=
  h.change (·.drop buffer) fun _ _ => rfl

theorem isClosed_eq (h : state.SameButLog other) : other.isClosed = state.isClosed := by
  obtain ⟨_, rfl, -⟩ := h
  rfl

theorem stream_eq (h : state.SameButLog other) : other.stream = state.stream := by
  obtain ⟨_, rfl, -⟩ := h
  rfl

theorem profile_eq (h : state.SameButLog other) : other.profile = state.profile := by
  obtain ⟨_, rfl, -⟩ := h
  rfl

theorem usable (h : state.SameButLog other) (husable : state.Usable) : other.Usable := by
  obtain ⟨_, rfl, -⟩ := h
  exact ⟨husable.notClosed, husable.hasStream⟩

theorem shutStream (h : state.SameButLog other) (connection : Connection σ) :
    (connection.shutStream state).SameButLog (connection.shutStream other) := by
  have hstream : other.hasStream = state.hasStream := by
    obtain ⟨_, rfl, -⟩ := h
    rfl
  let closing (before : ConnectionStatus σ) : ConnectionStatus σ :=
    { before with stream := connection.transport.close before.stream }
  unfold Connection.shutStream
  by_cases hmade : state.hasStream = true
  · rw [if_pos hmade, if_pos (hstream.trans hmade)]
    exact (h.change closing fun _ _ => rfl).note .shut
  · rw [if_neg hmade, if_neg (hstream ▸ hmade)]
    exact h

theorem shut (h : state.SameButLog other) (connection : Connection σ) :
    (connection.shut state).SameButLog (connection.shut other) := by
  let closing (before : ConnectionStatus σ) : ConnectionStatus σ := { before with phase := .closed }
  have hclosing : (closing state).SameButLog (closing other) := h.change closing fun _ _ => rfl
  have hshut := (hclosing.shutStream connection).note
    (.logged ⟨.debug, "connection closed", [("connection", state.profile.connection.text)]⟩)
  have htext : other.profile.connection.text = state.profile.connection.text := by
    rw [h.profile_eq]
  unfold Connection.shut
  rw [h.isClosed_eq, htext]
  split
  · exact h
  · exact hshut

end ConnectionStatus.SameButLog

/-! ## Actions that do not read the log -/

/-- An action that ends alike wherever states are the same but for their logs. -/
def Action.Blind (operation : Action σ α) : Prop :=
  ∀ state other : ConnectionStatus σ, state.SameButLog other →
    EndsAlike ConnectionStatus.SameButLog (operation state) (operation other)

namespace Action

theorem blind_pure (value : α) : Blind (pure value : Action σ α) := fun _ _ h => .ok value h

theorem blind_note (happening : Happening) :
    Blind (modify fun state => state.note happening : Action σ PUnit) :=
  fun _ _ h => .ok _ (h.note happening)

theorem blind_ofResult (result : Except LinkError α) : Blind (ofResult result : Action σ α) :=
  fun _ _ h => .ofResult result h

theorem blind_lend (bytes : Bytes) : Blind (lend bytes : Action σ Buffer) := by
  rintro state _ ⟨journal, rfl, hjournal⟩
  exact .ok _ ⟨journal, rfl, hjournal⟩

theorem blind_passing (buffer : Buffer) (result : Except LinkError α) :
    Blind (passing buffer result : Action σ α) := by
  intro state other h
  cases result with
  | ok value => exact .ok value h
  | error fault => exact .error fault (h.drop buffer)

theorem blind_bind {first : Action σ α} {rest : α → Action σ β} (hfirst : first.Blind)
    (hrest : ∀ a, (rest a).Blind) : Blind (first >>= rest) :=
  fun _ _ h => (hfirst _ _ h).bind fun a _ _ _ => hrest a _ _

theorem blind_holding (buffer : Buffer) {operation : Action σ α} (h : operation.Blind) :
    Blind (holding buffer operation) :=
  fun _ _ hsame => (h _ _ hsame).concluding (fun _ _ h => h.drop buffer) fun _ _ _ h => h.drop buffer

end Action

namespace Connection

open CommandLink.Action

theorem blind_closingOnFailure (connection : Connection σ) {operation : Action σ α}
    (h : operation.Blind) : Blind (connection.closingOnFailure operation) :=
  fun _ _ hsame => (h _ _ hsame).concluding (fun _ _ => id) fun _ _ _ h => h.shut connection

theorem sameButLog_met (connection : Connection σ) {state other : ConnectionStatus σ}
    (h : state.SameButLog other) (happening : Happening) (perform : σ → Answer α × σ) :
    (connection.met happening perform state).SameButLog
      (connection.met happening perform other) := by
  let calling (before : ConnectionStatus σ) : ConnectionStatus σ :=
    { before with stream := (perform state.stream).2 }
  have hcalled : ((calling state).note happening).SameButLog ((calling other).note happening) :=
    (h.change calling fun _ _ => rfl).note happening
  unfold met
  rw [h.stream_eq]
  split
  · exact hcalled.shut connection
  · exact hcalled

/-- **A call** meets the same stream. -/
theorem blind_call (connection : Connection σ) (mode : Mode) (stage : Stage)
    (happening : Happening) (perform : σ → Answer α × σ) :
    Blind (connection.call mode stage happening perform) := by
  intro state other h
  by_cases hrefused : mode = .awaited ∧ state.isClosed
  · rw [call_of_refused hrefused, call_of_refused (h.isClosed_eq ▸ hrefused)]
    exact .error _ h
  · have hbegun : ¬ (mode = .awaited ∧ other.isClosed) := h.isClosed_eq ▸ hrefused
    have hmet := connection.sameButLog_met h happening perform
    cases houtcome : (perform state.stream).1.outcome with
    | done value =>
      rw [call_of_done hrefused houtcome, call_of_done hbegun (h.stream_eq ▸ houtcome)]
      exact .ok value hmet
    | failed failure =>
      rw [call_of_failed hrefused houtcome, call_of_failed hbegun (h.stream_eq ▸ houtcome)]
      unfold failureOf
      rw [hmet.isClosed_eq]
      exact .error _ hmet
    | stalled =>
      rw [call_of_stalled hrefused houtcome, call_of_stalled hbegun (h.stream_eq ▸ houtcome)]
      exact .error _ ((hmet.shut connection).note .waited)

theorem blind_readBuffer (connection : Connection σ) (mode : Mode) (stage : Stage) (count : Nat) :
    Blind (connection.readBuffer mode stage count) :=
  blind_bind (connection.blind_call mode stage _ _) fun bytes => blind_lend bytes

theorem blind_spareBuffer (connection : Connection σ) (size : Nat) :
    Blind (connection.spareBuffer size) := by
  apply blind_bind (blind_note _)
  intro _
  split
  · exact blind_lend []
  · exact blind_pure _

theorem blind_unpack (connection : Connection σ) (header : Header) (body : Bytes) (limit : Nat) :
    Blind (connection.unpack header body limit) := by
  apply blind_bind (blind_ofResult _)
  intro envelope
  apply blind_bind (blind_ofResult _)
  intro plan
  apply blind_bind (connection.blind_spareBuffer plan.2)
  intro spare
  exact blind_passing _ _

theorem blind_assemble (connection : Connection σ) (header : Header) (body : Buffer)
    (limit : Nat) : Blind (connection.assemble header body limit) := by
  unfold assemble
  split
  · exact blind_passing _ _
  · split
    · exact blind_holding body (connection.blind_unpack _ _ _)
    · exact blind_pure _

/-- **Receiving** ends alike. -/
theorem blind_receiveWithin (connection : Connection σ) (mode : Mode) (limit : Nat) :
    Blind (connection.receiveWithin mode limit) := by
  apply blind_bind (blind_note _)
  intro _
  apply blind_bind (connection.blind_readBuffer mode _ _)
  intro front
  apply blind_holding
  apply blind_bind (blind_ofResult _)
  intro header
  apply blind_bind (connection.blind_readBuffer mode _ _)
  intro body
  exact connection.blind_assemble header body limit

end Connection

end CommandLink
