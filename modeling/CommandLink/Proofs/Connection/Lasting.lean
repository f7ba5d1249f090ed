import CommandLink.Connection.Opening
import CommandLink.Proofs.Connection.Exchange

/-!
# Relations that last

What an action leaves behind, however it ends, is told by a relation between the states before and
after: `Action.Keeps`. Most relations of interest outlast all that happens between the calls of a
transport; these are `Connection.Lasting`. Of such a relation only the calls that an operation makes
have to be considered, and each operation has a law that says which these are.
-/

namespace CommandLink

variable {σ α β : Type}

namespace Action

/-- The state that an action leaves behind, however it ends. -/
def after (operation : Action σ α) (state : ConnectionStatus σ) : ConnectionStatus σ :=
  match operation state with
  | .ok _ next => next
  | .error _ next => next

theorem after_of_ok {operation : Action σ α} {state next : ConnectionStatus σ} {value : α}
    (h : operation state = .ok value next) : operation.after state = next := by
  simp only [after, h]

theorem after_of_error {operation : Action σ α} {state next : ConnectionStatus σ}
    {error : LinkError} (h : operation state = .error error next) :
    operation.after state = next := by
  simp only [after, h]

/-- What a sequence leaves behind after a value is left by what comes then. -/
theorem after_bind_of_ok {first : Action σ α} {rest : α → Action σ β}
    {state mid : ConnectionStatus σ} {a : α} (h : first state = .ok a mid) :
    (first >>= rest).after state = (rest a).after mid := by
  simp only [after, bind_of_ok h]

/-- A relation between states that an action keeps, however it ends. -/
def Keeps (R : ConnectionStatus σ → ConnectionStatus σ → Prop) (operation : Action σ α) : Prop :=
  ∀ state, R state (operation.after state)

/-- What is kept however an action ends is kept when it ends well. -/
theorem Keeps.of_ok {R : ConnectionStatus σ → ConnectionStatus σ → Prop} {operation : Action σ α}
    (hkeeps : operation.Keeps R) {state next : ConnectionStatus σ} {value : α}
    (h : operation state = .ok value next) : R state next := by
  have hkept := hkeeps state
  rwa [after_of_ok h] at hkept

theorem keeps_modify {R : ConnectionStatus σ → ConnectionStatus σ → Prop}
    {change : ConnectionStatus σ → ConnectionStatus σ} (h : ∀ state, R state (change state)) :
    Keeps R (modify change) := h

end Action

/-- A relation between states that is kept by what any operation may do between the calls of a
transport: write into the log, lend buffers and get them back, and close the connection. -/
structure Connection.Lasting (connection : Connection σ)
    (R : ConnectionStatus σ → ConnectionStatus σ → Prop) : Prop where
  refl : ∀ state, R state state
  trans : ∀ {state mid next}, R state mid → R mid next → R state next
  logged : ∀ state record, R state (state.note (.logged record))
  waited : ∀ state, R state (state.note .waited)
  ledger : ∀ (state : ConnectionStatus σ) ledger, R state { state with ledger }
  shut : ∀ state, R state (connection.shut state)

/-- The state in which a call of the transport is written down, with what it made of the stream. -/
def ConnectionStatus.called (happening : Happening) (perform : σ → Answer α × σ)
    (state : ConnectionStatus σ) : ConnectionStatus σ :=
  { state with stream := (perform state.stream).2 }.note happening

namespace Connection

/-- A call of the transport that keeps a relation by what it makes of the stream and by being
written down. -/
def Admits (R : ConnectionStatus σ → ConnectionStatus σ → Prop) (happening : Happening)
    (perform : σ → Answer α × σ) : Prop :=
  ∀ state : ConnectionStatus σ,
    R state ({ state with stream := (perform state.stream).2 }.note happening)

/-- A relation that is kept by telling a listener of events. -/
def AdmitsTelling (R : ConnectionStatus σ → ConnectionStatus σ → Prop) : Prop :=
  ∀ state event, R state (state.note (.told event))

/-- A relation that is kept by asking the transport for a spare buffer. -/
def AdmitsSpare (R : ConnectionStatus σ → ConnectionStatus σ → Prop) (size : Nat) : Prop :=
  ∀ state, R state (state.note (.spared size))

/-- A relation that is kept by all that receiving within a limit may ask of the transport: a header
first, then what fits the limit beside a header. -/
structure AdmitsReceiving (connection : Connection σ)
    (R : ConnectionStatus σ → ConnectionStatus σ → Prop) (mode : Mode) (limit : Nat) : Prop where
  header : Admits R (.asked Header.size) (connection.transport.read mode Header.size)
  body : ∀ count, count + Header.size ≤ limit →
    Admits R (.asked count) (connection.transport.read mode count)
  spare : ∀ size, size + Header.size ≤ limit → AdmitsSpare R size

variable {connection : Connection σ} {R : ConnectionStatus σ → ConnectionStatus σ → Prop}

namespace Lasting

/-- A line in the log. -/
theorem log (lasting : connection.Lasting R) (state : ConnectionStatus σ) (level : LogLevel)
    (message : String) (fields : List (String × String)) :
    R state (state.log level message fields) :=
  lasting.logged state _

/-- A buffer that is let go of. -/
theorem drop (lasting : connection.Lasting R) (state : ConnectionStatus σ) (buffer : Buffer) :
    R state (state.drop buffer) :=
  lasting.ledger state _

/-- An event, with all that its listener has to say about it. -/
theorem tell (lasting : connection.Lasting R) (htold : AdmitsTelling R)
    (state : ConnectionStatus σ) (listener : Option Listener) (event : CommandEvent) :
    R state (state.tell listener event) := by
  cases listener with
  | none => exact lasting.refl state
  | some listener =>
    exact ConnectionStatus.tell_of_told
      (fun told record hkept => lasting.trans hkept (lasting.logged told record))
      (htold state event) listener

/-- Two relations that last do so together. -/
theorem and {S : ConnectionStatus σ → ConnectionStatus σ → Prop} (hR : connection.Lasting R)
    (hS : connection.Lasting S) :
    connection.Lasting fun state next => R state next ∧ S state next where
  refl state := ⟨hR.refl state, hS.refl state⟩
  trans hfirst hsecond := ⟨hR.trans hfirst.1 hsecond.1, hS.trans hfirst.2 hsecond.2⟩
  logged state record := ⟨hR.logged state record, hS.logged state record⟩
  waited state := ⟨hR.waited state, hS.waited state⟩
  ledger state ledger := ⟨hR.ledger state ledger, hS.ledger state ledger⟩
  shut state := ⟨hR.shut state, hS.shut state⟩

variable (lasting : connection.Lasting R)

include lasting

/-! ## What a lasting relation outlasts -/

theorem keeps_pure (value : α) : Action.Keeps R (pure value) := lasting.refl

theorem keeps_throw (error : LinkError) : Action.Keeps R (throw error : Action σ α) := lasting.refl

theorem keeps_get : Action.Keeps R (get : Action σ _) := lasting.refl

theorem keeps_ofResult (result : Except LinkError α) : Action.Keeps R (.ofResult result) := by
  cases result with
  | ok value => exact lasting.refl
  | error fault => exact lasting.refl

theorem keeps_lend (bytes : Bytes) : Action.Keeps R (.lend bytes) :=
  fun state => lasting.ledger state _

theorem keeps_passing (buffer : Buffer) (result : Except LinkError α) :
    Action.Keeps R (.passing buffer result) := by
  intro state
  cases result with
  | ok value => exact lasting.refl state
  | error fault => exact lasting.drop state buffer

/-- What is so after the first part of a sequence is so after all of it, if the second part keeps it
on the values of the first. -/
theorem after_bind {origin state : ConnectionStatus σ} {first : Action σ α} {rest : α → Action σ β}
    (hfirst : R origin (first.after state))
    (hrest : ∀ a mid, first state = .ok a mid → R mid ((rest a).after mid)) :
    R origin ((first >>= rest).after state) := by
  cases hresult : first state with
  | ok a mid =>
    rw [Action.after_of_ok hresult] at hfirst
    rw [Action.after_bind_of_ok hresult]
    exact lasting.trans hfirst (hrest a mid hresult)
  | error fault mid =>
    rw [Action.after_of_error hresult] at hfirst
    rw [Action.after_of_error (Action.bind_of_error hresult)]
    exact hfirst

/-- What is so after an operation is so after its conclusion, if either ending's keeps it. -/
theorem after_concluding {origin state : ConnectionStatus σ}
    {onOk : ConnectionStatus σ → ConnectionStatus σ}
    {onError : LinkError → ConnectionStatus σ → ConnectionStatus σ} {operation : Action σ α}
    (h : R origin (operation.after state)) (hok : ∀ state, R state (onOk state))
    (herror : ∀ error state, R state (onError error state)) :
    R origin ((Action.concluding onOk onError operation).after state) := by
  cases hresult : operation state with
  | ok value next =>
    rw [Action.after_of_ok hresult] at h
    rw [Action.after_of_ok (Action.concluding_of_ok hresult)]
    exact lasting.trans h (hok next)
  | error fault next =>
    rw [Action.after_of_error hresult] at h
    rw [Action.after_of_error (Action.concluding_of_error hresult)]
    exact lasting.trans h (herror fault next)

/-- A sequence keeps what its parts keep, where the second is tried on the values of the first. -/
theorem keeps_bind_of {first : Action σ α} {rest : α → Action σ β} (hfirst : first.Keeps R)
    (hrest : ∀ state a mid, first state = .ok a mid → R mid ((rest a).after mid)) :
    Action.Keeps R (first >>= rest) :=
  fun state => lasting.after_bind (hfirst state) (hrest state)

/-- A sequence keeps what its parts keep. -/
theorem keeps_bind {first : Action σ α} {rest : α → Action σ β} (hfirst : first.Keeps R)
    (hrest : ∀ a, (rest a).Keeps R) : Action.Keeps R (first >>= rest) :=
  lasting.keeps_bind_of hfirst fun _ a mid _ => hrest a mid

/-- A computation that has a result is followed by what keeps the relation on that result. -/
theorem keeps_ofResult_bind {result : Except LinkError α} {rest : α → Action σ β}
    (hrest : ∀ a, result = .ok a → (rest a).Keeps R) :
    Action.Keeps R (Action.ofResult result >>= rest) :=
  lasting.keeps_bind_of (lasting.keeps_ofResult result) fun _ a mid h =>
    hrest a (Action.ok_of_ofResult h).1 mid

/-- A conclusion is kept when either ending's is. -/
theorem keeps_concluding {onOk : ConnectionStatus σ → ConnectionStatus σ}
    {onError : LinkError → ConnectionStatus σ → ConnectionStatus σ} {operation : Action σ α}
    (h : operation.Keeps R) (hok : ∀ state, R state (onOk state))
    (herror : ∀ error state, R state (onError error state)) :
    Action.Keeps R (.concluding onOk onError operation) :=
  fun state => lasting.after_concluding (h state) hok herror

theorem keeps_holding (buffer : Buffer) {operation : Action σ α} (h : operation.Keeps R) :
    Action.Keeps R (.holding buffer operation) :=
  lasting.keeps_concluding h (fun state => lasting.drop state buffer)
    fun _ state => lasting.drop state buffer

theorem keeps_closingOnFailure {operation : Action σ α} (h : operation.Keeps R) :
    Action.Keeps R (connection.closingOnFailure operation) :=
  lasting.keeps_concluding h lasting.refl fun _ => lasting.shut

/-- A call that is begun is written down, with what it makes of the stream; what comes then is
between calls. -/
theorem after_call {mode : Mode} {stage : Stage} {happening : Happening}
    {perform : σ → Answer α × σ} {state : ConnectionStatus σ}
    (hbegun : ¬ (mode = .awaited ∧ state.isClosed)) :
    R (state.called happening perform)
      ((connection.call mode stage happening perform).after state) := by
  have hmet : R (state.called happening perform) (connection.met happening perform state) := by
    unfold met
    split
    · exact lasting.shut _
    · exact lasting.refl _
  cases houtcome : (perform state.stream).1.outcome with
  | done value =>
    rw [Action.after_of_ok (call_of_done hbegun houtcome)]
    exact hmet
  | failed failure =>
    rw [Action.after_of_error (call_of_failed hbegun houtcome)]
    exact hmet
  | stalled =>
    rw [Action.after_of_error (call_of_stalled hbegun houtcome)]
    exact lasting.trans hmet (lasting.trans (lasting.shut _) (lasting.waited _))

/-- A call keeps the relation when its happening does, however it is answered. -/
theorem keeps_call {mode : Mode} {stage : Stage} {happening : Happening}
    {perform : σ → Answer α × σ} (hadmits : Admits R happening perform) :
    Action.Keeps R (connection.call mode stage happening perform) := by
  intro state
  by_cases hrefused : mode = .awaited ∧ state.isClosed
  · rw [Action.after_of_error (call_of_refused hrefused)]
    exact lasting.refl state
  · exact lasting.trans (hadmits state) (lasting.after_call hrefused)

/-! ## Operations on messages -/

theorem keeps_requireStream : Action.Keeps R connection.requireStream := by
  refine lasting.keeps_bind lasting.keeps_get ?_
  intro state
  split
  · exact lasting.keeps_throw _
  · split
    · exact lasting.keeps_throw _
    · exact lasting.keeps_pure _

theorem keeps_spareBuffer {size : Nat} (hspare : AdmitsSpare R size) :
    Action.Keeps R (connection.spareBuffer size) := by
  refine lasting.keeps_bind (Action.keeps_modify hspare) ?_
  intro _
  split
  · exact lasting.keeps_lend []
  · exact lasting.keeps_pure _

theorem keeps_unpack (header : Header) (body : Bytes) {limit : Nat}
    (hspare : ∀ size, size + Header.size ≤ limit → AdmitsSpare R size) :
    Action.Keeps R (connection.unpack header body limit) := by
  refine lasting.keeps_bind (lasting.keeps_ofResult _) ?_
  intro envelope
  refine lasting.keeps_ofResult_bind ?_
  intro plan hplan
  exact lasting.keeps_bind (lasting.keeps_spareBuffer (hspare _ (planUnpacking_eq_ok hplan).2.2))
    fun spare => lasting.keeps_passing _ _

theorem keeps_assemble (header : Header) (body : Buffer) {limit : Nat}
    (hspare : ∀ size, size + Header.size ≤ limit → AdmitsSpare R size) :
    Action.Keeps R (connection.assemble header body limit) := by
  unfold assemble
  split
  · exact lasting.keeps_passing _ _
  · split
    · exact lasting.keeps_holding body (lasting.keeps_unpack _ _ hspare)
    · exact lasting.keeps_pure _

theorem keeps_readBuffer {mode : Mode} {stage : Stage} {count : Nat}
    (hread : Admits R (.asked count) (connection.transport.read mode count)) :
    Action.Keeps R (connection.readBuffer mode stage count) :=
  lasting.keeps_bind (lasting.keeps_call hread) fun bytes => lasting.keeps_lend bytes

/-- **Receiving** keeps what it is bound to keep by the limit. -/
theorem keeps_receiveWithin {mode : Mode} {limit : Nat}
    (hreceiving : connection.AdmitsReceiving R mode limit) :
    Action.Keeps R (connection.receiveWithin mode limit) := by
  refine lasting.keeps_bind (Action.keeps_modify fun state => lasting.log state _ _ _) ?_
  intro _
  refine lasting.keeps_bind (lasting.keeps_readBuffer hreceiving.header) ?_
  intro front
  refine lasting.keeps_holding front (lasting.keeps_ofResult_bind fun header hdecode => ?_)
  obtain ⟨-, -, hlow, hhigh⟩ := Header.decode_eq_ok_iff.mp hdecode
  have hfits : header.bodySize + Header.size ≤ limit := by
    rw [Header.bodySize, Nat.sub_add_cancel hlow]
    exact hhigh
  exact lasting.keeps_bind (lasting.keeps_readBuffer (hreceiving.body _ hfits)) fun body =>
    lasting.keeps_assemble header body hreceiving.spare

theorem keeps_borrowBuffer {size : Nat} (hspare : AdmitsSpare R size) :
    Action.Keeps R (connection.borrowBuffer size) := by
  refine lasting.keeps_bind lasting.keeps_get ?_
  intro state
  split
  · exact lasting.keeps_spareBuffer hspare
  · exact lasting.keeps_throw _

/-- What is begun in a usable state keeps the relation by what is done then. -/
theorem after_requireStream_bind {rest : Unit → Action σ α} {state : ConnectionStatus σ}
    (hrest : state.Usable → R state ((rest ()).after state)) :
    R state ((connection.requireStream >>= rest).after state) := by
  by_cases husable : state.Usable
  · rw [Action.after_bind_of_ok (connection.requireStream_of_usable husable)]
    exact hrest husable
  · obtain ⟨fault, hrefused⟩ := connection.requireStream_of_not_usable husable
    rw [Action.after_of_error (Action.bind_of_error hrefused)]
    exact lasting.refl state

/-- Receiving is bound by the limit that it finds. -/
theorem keeps_receive {mode : Mode} (responseTo : UInt32) (state : ConnectionStatus σ)
    (hreceiving : connection.AdmitsReceiving R mode state.profile.limits.messageSize) :
    R state ((connection.receive mode responseTo).after state) := by
  refine lasting.after_requireStream_bind fun _ => ?_
  rw [Action.after_bind_of_ok (Action.get_eq state)]
  refine lasting.keeps_closingOnFailure ?_ state
  exact lasting.keeps_bind (lasting.keeps_receiveWithin hreceiving) fun response =>
    lasting.keeps_passing _ _

/-- **Sending** writes the bytes and nothing else. -/
theorem keeps_send {mode : Mode} {bytes : Bytes} (requestId : UInt32)
    (hwrite : Admits R (.wrote bytes) (connection.transport.write mode bytes)) :
    Action.Keeps R (connection.send mode bytes requestId) := by
  refine lasting.keeps_bind lasting.keeps_requireStream ?_
  intro _
  refine lasting.keeps_bind (Action.keeps_modify fun state => lasting.log state _ _ _) ?_
  intro _
  exact lasting.keeps_closingOnFailure (lasting.keeps_call hwrite)

/-! ## Commands -/

theorem keeps_complete (htold : AdmitsTelling R) (dispatch : Dispatch) (response : Response)
    (decode : RawDocument → Except LinkError α) :
    Action.Keeps R (connection.complete dispatch response decode) := by
  refine lasting.keeps_bind (lasting.keeps_ofResult _) ?_
  intro reply
  refine lasting.keeps_bind (lasting.keeps_ofResult _) ?_
  intro success
  split
  · refine lasting.keeps_bind (Action.keeps_modify fun state => lasting.tell htold state _ _) ?_
    exact fun _ => lasting.keeps_ofResult _
  · exact lasting.keeps_bind (lasting.keeps_ofResult _) fun document => lasting.keeps_throw _

/-- What is so after the bytes of a command were handed over is so after its conversation. -/
theorem after_converse (htold : AdmitsTelling R) {mode : Mode} {bytes : Bytes} {limit : Nat}
    (dispatch : Dispatch) (decode : RawDocument → Except LinkError α)
    {origin state : ConnectionStatus σ}
    (hwritten : R origin ((connection.call mode .writing (.wrote bytes)
      (connection.transport.write mode bytes)).after state))
    (hreceiving : connection.AdmitsReceiving R mode limit) :
    R origin ((connection.converse mode dispatch bytes limit decode).after state) := by
  refine lasting.after_concluding (lasting.after_bind hwritten fun _ written _ => ?_) lasting.refl
    fun _ ended => lasting.trans (lasting.tell htold ended _ _) (lasting.shut _)
  refine lasting.keeps_bind (lasting.keeps_receiveWithin hreceiving) ?_ written
  intro response
  exact lasting.keeps_holding _ (lasting.keeps_complete htold _ response decode)

theorem keeps_converse (htold : AdmitsTelling R) {mode : Mode} {bytes : Bytes} {limit : Nat}
    (dispatch : Dispatch) (decode : RawDocument → Except LinkError α)
    (hwrite : Admits R (.wrote bytes) (connection.transport.write mode bytes))
    (hreceiving : connection.AdmitsReceiving R mode limit) :
    Action.Keeps R (connection.converse mode dispatch bytes limit decode) :=
  fun state => lasting.after_converse htold dispatch decode (lasting.keeps_call hwrite state)
    hreceiving

/-- **A command** writes the bytes that go out for it in the state that it finds, and then receives
within the limit that it finds. -/
theorem keeps_command (htold : AdmitsTelling R) {mode : Mode} {message : Command}
    (decode : RawDocument → Except LinkError α) (state : ConnectionStatus σ)
    (hwrite : ∀ bytes, connection.outgoing state message = .ok bytes →
      Admits R (.wrote bytes) (connection.transport.write mode bytes))
    (hreceiving : connection.AdmitsReceiving R mode state.profile.limits.messageSize) :
    R state ((connection.command mode message decode).after state) := by
  refine lasting.after_requireStream_bind fun _ => ?_
  rw [Action.after_bind_of_ok (Action.get_eq state)]
  refine lasting.keeps_ofResult_bind (fun bytes hbytes => ?_) state
  refine lasting.keeps_bind (Action.keeps_modify fun _ => lasting.tell htold _ _ _) ?_
  intro _
  exact lasting.keeps_converse htold _ decode (hwrite bytes hbytes) hreceiving

/-! ## Opening -/

/-- Making the stream touches the phase of the connection and the mark that there is a stream. -/
theorem keeps_begin
    (hopening : ∀ state : ConnectionStatus σ, R state { state with phase := .opening })
    (hstream : ∀ state : ConnectionStatus σ, R state { state with hasStream := true })
    (hshut : ∀ state, R state (connection.shutStream state))
    (hcreate : Admits R .created (connection.transport.create connection.address)) :
    Action.Keeps R connection.begin := by
  refine lasting.keeps_bind lasting.keeps_get ?_
  intro state
  split
  · exact lasting.keeps_throw _
  · exact lasting.keeps_throw _
  · exact lasting.keeps_throw _
  · refine lasting.keeps_bind (Action.keeps_modify hopening) ?_
    intro _
    refine lasting.keeps_bind (lasting.keeps_closingOnFailure (lasting.keeps_call hcreate)) ?_
    intro _
    refine lasting.keeps_bind (Action.keeps_modify hstream) ?_
    intro _
    refine lasting.keeps_bind lasting.keeps_get ?_
    intro made
    split
    · exact lasting.keeps_bind (Action.keeps_modify hshut) fun _ => lasting.keeps_throw _
    · exact lasting.keeps_pure _

theorem keeps_takeRequestId
    (hcounters : ∀ (state : ConnectionStatus σ) counters, R state { state with counters }) :
    Action.Keeps R takeRequestId :=
  lasting.keeps_bind lasting.keeps_get fun _ =>
    lasting.keeps_bind (Action.keeps_modify fun current => hcounters current _) fun _ =>
      lasting.keeps_pure _

theorem keeps_prepare (closes : Bool)
    (describe : ConnectionProfile → Except LinkError ConnectionProfile) :
    Action.Keeps R (connection.prepare closes describe) := by
  have hdescribe := lasting.keeps_bind lasting.keeps_get
    fun state => lasting.keeps_ofResult (describe state.profile)
  unfold prepare
  split
  · exact lasting.keeps_bind (Action.keeps_modify lasting.shut) fun _ => hdescribe
  · exact hdescribe

/-- Describing the server sends a command where the server is asked. -/
theorem keeps_describe (htold : AdmitsTelling R) {mode : Mode}
    (hcounters : ∀ (state : ConnectionStatus σ) counters, R state { state with counters })
    (hwrite : ∀ bytes, Admits R (.wrote bytes) (connection.transport.write mode bytes))
    (hreceiving : ∀ limit, connection.AdmitsReceiving R mode limit) :
    Action.Keeps R (connection.describe mode) := by
  unfold describe
  split
  · refine lasting.keeps_bind (lasting.keeps_takeRequestId hcounters) ?_
    intro requestId
    refine lasting.keeps_bind ?_ ?_
    · intro state
      exact lasting.keeps_command htold _ state (fun bytes _ => hwrite bytes) (hreceiving _)
    · intro reply
      exact lasting.keeps_bind lasting.keeps_get fun state => lasting.keeps_pure _
  · exact lasting.keeps_prepare _ _

/-- Taking over a profile touches the profile, the compressor for sending and the phase. -/
theorem keeps_adopt (profile : ConnectionProfile)
    (hadopted : ∀ (state : ConnectionStatus σ) sendCompressor,
      R state { state with profile, sendCompressor })
    (hopened : ∀ state : ConnectionStatus σ, R state { state with phase := .opened }) :
    Action.Keeps R (connection.adopt profile) := by
  refine lasting.keeps_bind (lasting.keeps_ofResult _) ?_
  intro sendCompressor
  refine lasting.keeps_bind (Action.keeps_modify fun state => hadopted state _) ?_
  intro _
  refine lasting.keeps_bind lasting.keeps_get ?_
  intro state
  split
  · exact Action.keeps_modify hopened
  · exact lasting.keeps_throw _

end Lasting

/-! ## The profile -/

@[simp] theorem profile_shutStream (connection : Connection σ) (state : ConnectionStatus σ) :
    (connection.shutStream state).profile = state.profile := by
  unfold shutStream
  split <;> rfl

/-- The profile of a connection outlasts all that happens between calls. -/
theorem lasting_profile (connection : Connection σ) :
    connection.Lasting fun state next => next.profile = state.profile where
  refl _ := rfl
  trans hfirst hsecond := hsecond.trans hfirst
  logged _ _ := rfl
  waited _ := rfl
  ledger _ _ := rfl
  shut := connection.profile_shut

end Connection

end CommandLink
