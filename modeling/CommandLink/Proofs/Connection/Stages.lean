import CommandLink.Proofs.Connection.Course

/-!
# The stages of opening

Opening goes through stages: the stream is made, then connected, then the profile is learned, and in
the end it is taken over (`establish_eq`). Each of them goes one move on, from unopened to opening
and from there to open, or closes the connection. At each the connection is in order: its stream
runs its course, and there is no compressor for sending before the connection is open
(`inOrder_of_establish`).
-/

namespace CommandLink

variable {σ α β : Type}

/-- The moves of a connection: on to the next phase, and from any phase to closed. -/
inductive Phase.Moves : Phase → Phase → Prop
  | opening : Moves .unopened .opening
  | opened : Moves .opening .opened
  | closed (phase : Phase) : Moves phase .closed

namespace Connection

open ConnectionStatus

variable {connection : Connection σ} {state mid next : ConnectionStatus σ}

/-- A state that is in the phase of another one, or one move on. -/
def Advances (state next : ConnectionStatus σ) : Prop :=
  next.phase = state.phase ∨ state.phase.Moves next.phase

theorem Advances.of_closed (hclosed : next.phase = .closed) : Advances state next := by
  right
  rw [hclosed]
  exact .closed _

theorem Intact.advances (hintact : Intact state next) : Advances state next := by
  rcases hintact.steady.2 with hsame | hclosed
  · exact .inl hsame
  · exact .of_closed hclosed

/-! ## The stages of opening -/

/-- Opening until the stream is connected. -/
def connecting (connection : Connection σ) (mode : Mode) : Action σ Unit := do
  connection.begin
  connection.closingOnFailure
    (connection.call mode .opening .connected (connection.transport.connect mode))

/-- Opening until the profile is learned. -/
def describing (connection : Connection σ) (mode : Mode) : Action σ ConnectionProfile := do
  connection.connecting mode
  connection.closingOnFailure (connection.describe mode)

/-- To close on the failure of a sequence is to close on that of either part. -/
theorem closingOnFailure_bind (connection : Connection σ) (first : Action σ α)
    (rest : α → Action σ β) :
    connection.closingOnFailure (first >>= rest) =
      connection.closingOnFailure first >>= fun a => connection.closingOnFailure (rest a) := by
  funext state
  cases hfirst : first state with
  | ok a mid =>
    rw [Action.bind_of_ok (closingOnFailure_of_ok hfirst)]
    unfold closingOnFailure
    rw [Action.bind_of_ok hfirst]
  | error fault mid =>
    rw [Action.bind_of_error (closingOnFailure_of_error hfirst)]
    exact closingOnFailure_of_error (Action.bind_of_error hfirst)

/-- **Opening is its stages**, taking over the profile, and a line in the log. -/
theorem establish_eq (connection : Connection σ) (mode : Mode) :
    connection.establish mode = (do
      let profile ← connection.describing mode
      connection.closingOnFailure (connection.adopt profile)
      modify fun state => state.log .info "opened connection" (openedFields state)) := by
  unfold establish describing connecting
  simp only [closingOnFailure_bind, bind_assoc]

/-- What a sequence leaves behind is one step on from what its first part does, if it goes on by
such a step. -/
theorem advances_bind {first : Action σ α} {rest : α → Action σ β}
    (hrest : ∀ a mid, first state = .ok a mid → Advances mid ((rest a).after mid)) :
    Advances (first.after state) ((first >>= rest).after state) := by
  cases hfirst : first state with
  | ok a mid =>
    rw [Action.after_of_ok hfirst, Action.after_bind_of_ok hfirst]
    exact hrest a mid hfirst
  | error fault mid =>
    rw [Action.after_of_error hfirst, Action.after_of_error (Action.bind_of_error hfirst)]
    exact .inl rfl

/-! ## Being in order -/

/-- The courses of a stream, without one and with one: it is made and may be connected, and it is
closed in the end. -/
inductive IsCourse : Bool → List Turn → Prop
  | unmade : IsCourse false []
  | failed : IsCourse false [.created]
  | created : IsCourse true [.created, .shut]
  | connected : IsCourse true [.created, .connected, .shut]

/-- A connection is in order if its stream runs its course, nothing was done before it is opened,
and there is no compressor for sending before it is open. -/
structure InOrder (state : ConnectionStatus σ) : Prop where
  course : IsCourse state.hasStream state.course
  unopened : state.phase = .unopened → state.course = []
  sendCompressor : state.phase = .unopened ∨ state.phase = .opening → state.sendCompressor = none

theorem InOrder.of_closed (hclosed : state.phase = .closed)
    (hcourse : IsCourse state.hasStream state.course) : InOrder state where
  course := hcourse
  unopened hunopened := nomatch hclosed.symm.trans hunopened
  sendCompressor := by
    rintro (hphase | hphase) <;> cases hclosed.symm.trans hphase

theorem InOrder.of_intact (horder : InOrder state) (hintact : Intact state next) :
    InOrder next := by
  have hphase : ∀ phase, next.phase = phase → phase ≠ .closed → state.phase = phase := by
    intro phase hnext hopen
    rcases hintact.steady.2 with hsame | hclosed
    · exact hsame.symm.trans hnext
    · exact absurd (hnext.symm.trans hclosed) hopen
  refine ⟨?_, ?_, ?_⟩
  · rw [hintact.steady.1, hintact.course]
    exact horder.course
  · intro hunopened
    rw [hintact.course]
    exact horder.unopened (hphase _ hunopened nofun)
  · rintro (hunopened | hopening)
    · rw [hintact.sendCompressor]
      exact horder.sendCompressor (.inl (hphase _ hunopened nofun))
    · rw [hintact.sendCompressor]
      exact horder.sendCompressor (.inr (hphase _ hopening nofun))

/-- A connection that is being opened, with or without a stream and in a given course. It may have
been closed meanwhile. -/
structure Underway (hasStream : Bool) (course : List Turn) (state : ConnectionStatus σ) :
    Prop where
  phase : state.phase = .opening ∨ state.phase = .closed
  hasStream : state.hasStream = hasStream
  course : state.course = course
  sendCompressor : state.sendCompressor = none

namespace Underway

variable {hasStream : Bool} {course : List Turn}

theorem of_intact (h : Underway hasStream course state) (hintact : Intact state next) :
    Underway hasStream course next where
  phase := by
    rcases hintact.steady.2 with hsame | hclosed
    · rw [hsame]
      exact h.phase
    · exact .inr hclosed
  hasStream := hintact.steady.1.trans h.hasStream
  course := hintact.course.trans h.course
  sendCompressor := hintact.sendCompressor.trans h.sendCompressor

theorem inOrder (h : Underway hasStream course state) (hcourse : IsCourse hasStream course) :
    InOrder state where
  course := by
    rw [h.hasStream, h.course]
    exact hcourse
  unopened hunopened := by
    rcases h.phase with hphase | hphase <;> cases hphase.symm.trans hunopened
  sendCompressor _ := h.sendCompressor

end Underway

/-! ## What is so at each stage -/

/-- An action leaves the connection in order if it fails, and in a certain state if it succeeds. -/
def Brings (operation : Action σ α) (state : ConnectionStatus σ)
    (Q : ConnectionStatus σ → Prop) : Prop :=
  match operation state with
  | .ok _ next => Q next
  | .error _ next => InOrder next

namespace Brings

variable {Q R : ConnectionStatus σ → Prop}

theorem bind {first : Action σ α} {rest : α → Action σ β} (hfirst : Brings first state Q)
    (hrest : ∀ a mid, first state = .ok a mid → Q mid → Brings (rest a) mid R) :
    Brings (first >>= rest) state R := by
  unfold Brings at hfirst
  cases hresult : first state with
  | ok a mid =>
    rw [hresult] at hfirst
    unfold Brings
    rw [Action.bind_of_ok hresult]
    exact hrest a mid hresult hfirst
  | error fault mid =>
    rw [hresult] at hfirst
    unfold Brings
    rw [Action.bind_of_error hresult]
    exact hfirst

theorem inOrder {operation : Action σ α} (h : Brings operation state Q)
    (hQ : ∀ next, Q next → InOrder next) : InOrder (operation.after state) := by
  unfold Brings at h
  cases hresult : operation state with
  | ok a next =>
    rw [hresult] at h
    rw [Action.after_of_ok hresult]
    exact hQ next h
  | error fault next =>
    rw [hresult] at h
    rw [Action.after_of_error hresult]
    exact h

/-- What is left behind however an action ends may be in order. -/
theorem of_underway {operation : Action σ α} {hasStream : Bool} {course : List Turn}
    (h : Underway hasStream course (operation.after state)) (hcourse : IsCourse hasStream course) :
    Brings operation state (Underway hasStream course) := by
  unfold Brings
  cases hresult : operation state with
  | ok a next =>
    rw [Action.after_of_ok hresult] at h
    exact h
  | error fault next =>
    rw [Action.after_of_error hresult] at h
    exact h.inOrder hcourse

end Brings

/-- After a call that is begun, all that it did is that it was written down, or the connection was
closed over it. -/
theorem intact_of_call (connection : Connection σ) {mode : Mode} {stage : Stage}
    {happening : Happening} {perform : σ → Answer α × σ} (hopen : state.phase ≠ .closed) :
    Intact (state.called happening perform)
      ((connection.closingOnFailure
        (connection.call mode stage happening perform)).after state) :=
  connection.lasting_intact.after_concluding
    (connection.lasting_intact.after_call (begun_of_not_closed hopen))
    connection.lasting_intact.refl fun _ => connection.lasting_intact.shut

/-- Describing the server is all done with messages. -/
theorem intact_of_describe (connection : Connection σ) (mode : Mode)
    (state : ConnectionStatus σ) :
    Intact state ((connection.closingOnFailure (connection.describe mode)).after state) := by
  have hlasting := connection.lasting_intact
  exact hlasting.keeps_closingOnFailure (hlasting.keeps_describe (fun before _ => .note rfl before)
    (fun _ _ => ⟨rfl, rfl, ⟨rfl, .inl rfl⟩, rfl⟩) (fun _ => .admits rfl)
    (Intact.admitsReceiving connection mode)) state

/-! ### Making the stream -/

/-- The call that makes the stream is the first turn. -/
theorem underway_called (horder : InOrder state) (hphase : state.phase = .unopened)
    (create : σ → Answer Unit × σ) :
    Underway false [.created]
      (({ state with phase := .opening } : ConnectionStatus σ).called .created create) := by
  have hempty := horder.unopened hphase
  have hturns : state.turns = [] := (List.append_eq_nil_iff.mp hempty).1
  have hstream : state.hasStream = false := by
    have hcourse := horder.course
    rw [hempty] at hcourse
    generalize state.hasStream = hasStream at hcourse
    cases hcourse
    rfl
  let called := ({ state with phase := .opening } : ConnectionStatus σ).called .created create
  have hcalled : called.turns = [.created] := by
    rw [show called.turns = state.turns ++ [.created] from turns_note _ _, hturns]
    rfl
  exact ⟨.inl rfl, hstream, (@course_of_not_hasStream _ called hstream).trans hcalled,
    horder.sendCompressor (.inl hphase)⟩

theorem underway_create (connection : Connection σ) (horder : InOrder state)
    (hphase : state.phase = .unopened) :
    Underway false [.created] ((connection.closingOnFailure
      (connection.call .blocking .opening .created
        (connection.transport.create connection.address))).after { state with phase := .opening }) :=
  (underway_called horder hphase _).of_intact
    (@intact_of_call _ _ _ connection .blocking .opening _ _ nofun)

/-- A stream that was made is due to be closed. -/
theorem underway_of_created (h : Underway false [.created] mid) (hopen : mid.phase ≠ .closed) :
    Underway true [.created, .shut] { mid with hasStream := true } := by
  have hturns : mid.turns = [.created] := (course_of_not_hasStream h.hasStream).symm.trans h.course
  have hcourse := @course_of_usable _ { mid with hasStream := true } ⟨hopen, rfl⟩
  exact ⟨h.phase, rfl, hcourse.trans (congrArg (· ++ [Turn.shut]) hturns), h.sendCompressor⟩

/-- If the connection was closed before the stream was there, the stream is closed at once. -/
theorem underway_of_closed (connection : Connection σ) (h : Underway false [.created] mid)
    (hclosed : mid.phase = .closed) :
    Underway true [.created, .shut] (connection.shutStream { mid with hasStream := true }) := by
  let shut := connection.shutStream { mid with hasStream := true }
  have hphase : shut.phase = .closed := hclosed
  have hturns : shut.turns = mid.turns ++ [.shut] := connection.turns_shutStream _
  have hmade : mid.turns = [.created] := (course_of_closed hclosed).symm.trans h.course
  rw [hmade] at hturns
  exact ⟨.inr hclosed, rfl, (course_of_closed hphase).trans hturns, h.sendCompressor⟩

/-- **Making the stream** leaves it made, the connection being opened. -/
theorem brings_begin (connection : Connection σ) (horder : InOrder state) :
    Brings connection.begin state (Underway true [.created, .shut]) := by
  by_cases hphase : state.phase = .unopened
  · have hcreated := connection.underway_create horder hphase
    unfold Brings begin
    rw [Action.get_bind, hphase]
    dsimp only
    rw [Action.modify_bind]
    refine Brings.bind (Brings.of_underway hcreated .failed) fun _ made _ hmade => ?_
    -- the connection may have been closed over the call that made the stream
    unfold Brings
    rw [Action.modify_bind, Action.get_bind]
    by_cases hclosed : made.phase = .closed
    · rw [if_pos (show isClosed { made with hasStream := true } = true from
        isClosed_iff.mpr hclosed), Action.modify_bind]
      exact (underway_of_closed connection hmade hclosed).inOrder .created
    · rw [if_neg (show ¬ isClosed { made with hasStream := true } = true from
        fun h => hclosed (isClosed_iff.mp h))]
      exact underway_of_created hmade hclosed
  · obtain ⟨fault, hrefused⟩ := connection.begin_of_not_unopened hphase
    unfold Brings
    rw [hrefused]
    exact horder

/-- **There is a stream** from then on just if the call that makes it gives one. -/
theorem hasStream_begin_iff (connection : Connection σ) (horder : InOrder state)
    (hphase : state.phase = .unopened) :
    (connection.begin.after state).hasStream = true ↔
      ∃ made, (connection.transport.create connection.address state.stream).1.outcome =
        .done made := by
  have hcreated := connection.underway_create horder hphase
  unfold Action.after begin
  rw [Action.get_bind, hphase]
  dsimp only
  rw [Action.modify_bind]
  cases hcreate : connection.closingOnFailure (connection.call .blocking .opening .created
      (connection.transport.create connection.address)) { state with phase := .opening } with
  | ok value made =>
    have hdone := (ok_of_call (ok_of_closingOnFailure hcreate)).1
    rw [Action.bind_of_ok hcreate, Action.modify_bind, Action.get_bind]
    refine ⟨fun _ => ⟨value, hdone⟩, fun _ => ?_⟩
    by_cases hclosed : isClosed { made with hasStream := true } = true
    · rw [if_pos hclosed]
      rfl
    · rw [if_neg hclosed]
      rfl
  | error fault failed =>
    rw [Action.after_of_error hcreate] at hcreated
    rw [Action.bind_of_error hcreate]
    refine ⟨fun hstream => ?_, fun ⟨made, hdone⟩ => ?_⟩
    · rw [hcreated.hasStream] at hstream
      cases hstream
    · have hcall := @call_of_done _ _ connection { state with phase := .opening } .blocking .opening
        .created _ made nofun hdone
      rw [closingOnFailure_of_ok hcall] at hcreate
      cases hcreate

theorem phase_of_begin (h : connection.begin state = .ok () next) : next.phase = .opening := by
  obtain ⟨-, created, hcreate, hopen, rfl⟩ := ok_of_begin h
  have hphase := (connection.lasting_phase.keeps_call fun _ => .inl rfl).of_ok hcreate
  rcases hphase with hsame | hclosed
  · exact hsame
  · exact absurd hclosed hopen

theorem notClosed_of_begin (h : connection.begin state = .ok () next) : next.phase ≠ .closed := by
  rw [phase_of_begin h]
  decide

theorem advances_begin (connection : Connection σ) (state : ConnectionStatus σ) :
    Advances state (connection.begin.after state) := by
  cases hresult : connection.begin state with
  | ok _ next =>
    rw [Action.after_of_ok hresult]
    right
    rw [phase_of_begin hresult, (ok_of_begin hresult).1]
    exact .opening
  | error fault next =>
    rw [Action.after_of_error hresult]
    rcases error_of_begin hresult with rfl | hclosed
    · exact .inl rfl
    · exact .of_closed hclosed

/-! ### Connecting it -/

/-- The call that connects the stream is the turn between. -/
theorem underway_connected (h : Underway true [.created, .shut] mid) (hopen : mid.phase ≠ .closed)
    (connect : σ → Answer Unit × σ) :
    Underway true [.created, .connected, .shut] (mid.called .connected connect) := by
  let called := mid.called .connected connect
  have hmade : mid.turns ++ [.shut] = [.created] ++ [.shut] :=
    (course_of_usable ⟨hopen, h.hasStream⟩).symm.trans h.course
  have hturns : called.turns = mid.turns ++ [.connected] := turns_note _ _
  rw [List.append_cancel_right hmade] at hturns
  have hcourse : called.course = called.turns ++ [.shut] := course_of_usable ⟨hopen, h.hasStream⟩
  rw [hturns] at hcourse
  exact ⟨h.phase, h.hasStream, hcourse, h.sendCompressor⟩

theorem brings_connecting (connection : Connection σ) (mode : Mode) (horder : InOrder state) :
    Brings (connection.connecting mode) state (Underway true [.created, .connected, .shut]) := by
  refine (connection.brings_begin horder).bind fun _ made hbegin hmade => ?_
  have hopen := notClosed_of_begin hbegin
  exact .of_underway ((underway_connected hmade hopen _).of_intact
    (connection.intact_of_call hopen)) .connected

theorem advances_connecting (connection : Connection σ) (mode : Mode)
    (state : ConnectionStatus σ) :
    Advances (connection.begin.after state) ((connection.connecting mode).after state) := by
  refine advances_bind fun _ made hbegin => ?_
  have hopen := notClosed_of_begin hbegin
  have hintact := @intact_of_call _ _ _ connection mode .opening .connected
    (connection.transport.connect mode) hopen
  exact hintact.advances

/-! ### Learning the profile -/

theorem brings_describing (connection : Connection σ) (mode : Mode) (horder : InOrder state) :
    Brings (connection.describing mode) state (Underway true [.created, .connected, .shut]) :=
  (connection.brings_connecting mode horder).bind fun _ connected _ hconnected =>
    .of_underway (hconnected.of_intact (connection.intact_of_describe mode connected)) .connected

theorem advances_describing (connection : Connection σ) (mode : Mode)
    (state : ConnectionStatus σ) :
    Advances ((connection.connecting mode).after state)
      ((connection.describing mode).after state) :=
  advances_bind fun _ connected _ => (connection.intact_of_describe mode connected).advances

/-! ### Taking it over -/

theorem brings_adopt (connection : Connection σ) (profile : ConnectionProfile)
    (h : Underway true [.created, .connected, .shut] mid) :
    Brings (connection.closingOnFailure (connection.adopt profile)) mid InOrder := by
  unfold Brings
  cases hadopt : connection.adopt profile mid with
  | ok _ next =>
    rw [closingOnFailure_of_ok hadopt]
    obtain ⟨hopening, sendCompressor, -, hnext⟩ := ok_of_adopt hadopt
    have hopen : mid.phase ≠ .closed := by
      rw [hopening]
      decide
    have hturns : mid.turns ++ [.shut] = [.created, .connected, .shut] :=
      (course_of_usable ⟨hopen, h.hasStream⟩).symm.trans h.course
    have hopened : next.phase = .opened := by rw [hnext]
    have hstream : next.hasStream = true := by rw [hnext, h.hasStream]
    have husable : next.Usable := ⟨fun hclosed => (nomatch hopened.symm.trans hclosed), hstream⟩
    have hcourse : next.course = next.turns ++ [.shut] := course_of_usable husable
    rw [show next.turns = mid.turns by rw [hnext]; rfl, hturns] at hcourse
    refine ⟨?_, fun hunopened => (nomatch hopened.symm.trans hunopened), ?_⟩
    · rw [hstream, hcourse]
      exact .connected
    · rintro (hphase | hphase) <;> cases hopened.symm.trans hphase
  | error fault next =>
    rw [closingOnFailure_of_error hadopt]
    obtain ⟨_, _, rfl⟩ := error_of_adopt hadopt
    refine .of_closed (connection.phase_shut _) ?_
    rw [hasStream_shut, course_shut]
    have hcourse : IsCourse mid.hasStream mid.course := by
      rw [h.hasStream, h.course]
      exact .connected
    exact hcourse

theorem advances_adopt (connection : Connection σ) (profile : ConnectionProfile)
    (state : ConnectionStatus σ) :
    Advances state ((connection.closingOnFailure (connection.adopt profile)).after state) := by
  cases hresult : connection.closingOnFailure (connection.adopt profile) state with
  | ok _ next =>
    obtain ⟨hopening, _, -, rfl⟩ := ok_of_adopt (ok_of_closingOnFailure hresult)
    rw [Action.after_of_ok hresult]
    right
    rw [hopening]
    exact .opened
  | error fault next =>
    rw [Action.after_of_error hresult]
    exact .of_closed (error_of_closingOnFailure hresult)

/-- **Opening** leaves the connection in order, however it ends. -/
theorem inOrder_of_establish (connection : Connection σ) (mode : Mode) (horder : InOrder state) :
    InOrder ((connection.establish mode).after state) := by
  rw [establish_eq]
  refine ((connection.brings_describing mode horder).bind fun profile described _ h =>
    (connection.brings_adopt profile h).bind fun _ adopted _ hadopted => ?_).inOrder fun _ => id
  have hlogged : InOrder (adopted.log .info "opened connection" (openedFields adopted)) :=
    hadopted.of_intact (.note rfl adopted)
  exact hlogged

theorem advances_establish (connection : Connection σ) (mode : Mode)
    (state : ConnectionStatus σ) :
    Advances ((connection.describing mode).after state)
      ((connection.establish mode).after state) := by
  rw [establish_eq]
  refine advances_bind fun profile described _ => ?_
  have hadopted := connection.advances_adopt profile described
  cases hresult : connection.closingOnFailure (connection.adopt profile) described with
  | ok _ adopted =>
    rw [Action.after_of_ok hresult] at hadopted
    rw [Action.after_bind_of_ok hresult]
    exact hadopted
  | error fault adopted =>
    rw [Action.after_of_error hresult] at hadopted
    rw [Action.after_of_error (Action.bind_of_error hresult)]
    exact hadopted

end Connection

end CommandLink
