import CommandLink.Proofs.Connection.Journal
import CommandLink.Proofs.Connection.Session

/-!
# The course of a stream

A stream is made, connected and closed, and the journal tells of each of these turns. While a
connection has a stream and is not closed, one turn is still due: that the stream is closed. What an
operation on messages does leaves the turns taken and due, put together, as they are. So if such an
operation has closed the connection, it has closed the stream once (`closings_of_course`).
-/

namespace CommandLink

variable {σ α : Type}

/-- The turns in the course of a stream. -/
inductive Turn where
  | created
  | connected
  | shut
  deriving DecidableEq, Repr

/-- The turn that an entry of the journal tells of. -/
def Happening.turn? : Happening → Option Turn
  | created => some .created
  | connected => some .connected
  | shut => some .shut
  | _ => none

namespace ConnectionStatus

variable {state next : ConnectionStatus σ}

/-- The turns that were taken. -/
def turns (state : ConnectionStatus σ) : List Turn := state.entries Happening.turn?

/-- The turns that are still due: a stream of a connection that is not closed will be closed. -/
def due (state : ConnectionStatus σ) : List Turn :=
  if state.hasStream = true ∧ state.phase ≠ .closed then [.shut] else []

/-- The turns taken and due. -/
def course (state : ConnectionStatus σ) : List Turn := state.turns ++ state.due

/-- How often the transport was asked to close the stream. -/
def closings (state : ConnectionStatus σ) : Nat := state.turns.count .shut

@[simp] theorem turns_note (state : ConnectionStatus σ) (happening : Happening) :
    (state.note happening).turns = state.turns ++ happening.turn?.toList :=
  entries_note _ state happening

/-- Nothing is due on a closed connection. -/
theorem course_of_closed (hclosed : state.phase = .closed) : state.course = state.turns := by
  have hdue : state.due = [] := if_neg fun h => h.2 hclosed
  rw [course, hdue, List.append_nil]

/-- Nor is there without a stream. -/
theorem course_of_not_hasStream (hstream : state.hasStream = false) :
    state.course = state.turns := by
  have hdue : state.due = [] := by
    refine if_neg fun h => ?_
    rw [hstream] at h
    exact Bool.false_ne_true h.1
  rw [course, hdue, List.append_nil]

theorem course_of_usable (husable : state.Usable) : state.course = state.turns ++ [.shut] := by
  have hdue : state.due = [.shut] := if_pos ⟨husable.hasStream, husable.notClosed⟩
  rw [course, hdue]

/-- The same turns are due in states that are alike in their phase and their stream. -/
theorem due_congr (hphase : next.phase = state.phase) (hstream : next.hasStream = state.hasStream) :
    next.due = state.due := by
  unfold due
  rw [hphase, hstream]

/-- An entry that tells of no turn leaves the course as it is. -/
theorem course_note {happening : Happening} (h : happening.turn? = none)
    (state : ConnectionStatus σ) : (state.note happening).course = state.course := by
  have hdue : (state.note happening).due = state.due := due_congr rfl rfl
  rw [course, course, hdue, turns_note, h, Option.toList_none, List.append_nil]

/-- What was done is part of the course. -/
theorem count_turns_le (state : ConnectionStatus σ) (turn : Turn) :
    state.turns.count turn ≤ state.course.count turn := by
  rw [course, List.count_append]
  exact Nat.le_add_right _ _

/-- **A closing that was due has been done** if the connection is closed in the same course. -/
theorem closings_of_course (hcourse : next.course = state.course) (husable : state.Usable)
    (hclosed : next.phase = .closed) : next.closings = state.closings + 1 := by
  rw [course_of_closed hclosed, course_of_usable husable] at hcourse
  rw [closings, hcourse, List.count_append, closings]
  rfl

/-- No closing was done if one is still due in the same course. -/
theorem closings_of_course_usable (hcourse : next.course = state.course) (husable : state.Usable)
    (hstill : next.Usable) : next.closings = state.closings := by
  rw [course_of_usable hstill, course_of_usable husable] at hcourse
  rw [closings, List.append_cancel_right hcourse, closings]

end ConnectionStatus

namespace Connection

open ConnectionStatus

variable {connection : Connection σ} {state next : ConnectionStatus σ}

/-- Closing the stream takes the turn. -/
theorem turns_shutStream (connection : Connection σ) (state : ConnectionStatus σ) :
    (connection.shutStream state).turns =
      state.turns ++ if state.hasStream = true then [.shut] else [] := by
  unfold shutStream
  cases state.hasStream with
  | true => exact turns_note _ _
  | false => exact (List.append_nil _).symm

/-- **Closing the connection** takes the turn that is due. -/
theorem course_shut (connection : Connection σ) (state : ConnectionStatus σ) :
    (connection.shut state).course = state.course := by
  by_cases hclosed : state.phase = .closed
  · rw [shut_of_closed hclosed]
  · have hturns : (connection.shut state).turns =
        state.turns ++ if state.hasStream = true then [.shut] else [] := by
      unfold shut log
      rw [if_neg fun h => hclosed (isClosed_iff.mp h), turns_note, turns_shutStream]
      exact List.append_nil _
    have hdue : state.due = if state.hasStream = true then [.shut] else [] := by
      unfold due
      simp only [hclosed, ne_eq, not_false_eq_true, and_true]
    rw [course_of_closed (connection.phase_shut state), hturns, course, hdue]

/-! ## What is done with messages -/

/-- What no operation on messages changes: profile and compressor for sending, the mark that there
is a stream, its course, and the phase unless the connection is closed. -/
structure Intact (state next : ConnectionStatus σ) : Prop where
  profile : next.profile = state.profile
  sendCompressor : next.sendCompressor = state.sendCompressor
  steady : Steady state next
  course : next.course = state.course

namespace Intact

theorem refl (state : ConnectionStatus σ) : Intact state state :=
  ⟨rfl, rfl, ⟨rfl, .inl rfl⟩, rfl⟩

theorem trans {mid : ConnectionStatus σ} (connection : Connection σ) (hfirst : Intact state mid)
    (hsecond : Intact mid next) : Intact state next :=
  ⟨hsecond.profile.trans hfirst.profile, hsecond.sendCompressor.trans hfirst.sendCompressor,
    connection.lasting_steady.trans hfirst.steady hsecond.steady,
    hsecond.course.trans hfirst.course⟩

theorem note {happening : Happening} (h : happening.turn? = none) (state : ConnectionStatus σ) :
    Intact state (state.note happening) :=
  ⟨rfl, rfl, ⟨rfl, .inl rfl⟩, course_note h state⟩

/-- A call of the transport that is no turn. -/
theorem admits {happening : Happening} {perform : σ → Answer α × σ}
    (h : happening.turn? = none) : Admits Intact happening perform :=
  fun state => ⟨rfl, rfl, ⟨rfl, .inl rfl⟩,
    course_note h { state with stream := (perform state.stream).2 }⟩

theorem admitsReceiving (connection : Connection σ) (mode : Mode) (limit : Nat) :
    connection.AdmitsReceiving Intact mode limit where
  header := .admits rfl
  body _ _ := .admits rfl
  spare _ _ := .note rfl

end Intact

@[simp] theorem sendCompressor_shut (connection : Connection σ) (state : ConnectionStatus σ) :
    (connection.shut state).sendCompressor = state.sendCompressor := by
  obtain ⟨_, _, hshut, -⟩ := connection.shut_eq state
  rw [hshut]

theorem lasting_intact (connection : Connection σ) : connection.Lasting Intact where
  refl := .refl
  trans := .trans connection
  logged state _ := .note rfl state
  waited state := .note rfl state
  ledger _ _ := ⟨rfl, rfl, ⟨rfl, .inl rfl⟩, rfl⟩
  shut state := ⟨connection.profile_shut state, connection.sendCompressor_shut state,
    connection.lasting_steady.shut state, connection.course_shut state⟩

theorem intact_of_command (connection : Connection σ) (mode : Mode) (message : Command)
    (decode : RawDocument → Except LinkError α) (state : ConnectionStatus σ) :
    Intact state ((connection.command mode message decode).after state) :=
  connection.lasting_intact.keeps_command (fun before _ => .note rfl before) decode state
    (fun _ _ => .admits rfl) (Intact.admitsReceiving connection mode _)

theorem intact_of_send (connection : Connection σ) (mode : Mode) (bytes : Bytes)
    (requestId : UInt32) (state : ConnectionStatus σ) :
    Intact state ((connection.send mode bytes requestId).after state) :=
  connection.lasting_intact.keeps_send requestId (.admits rfl) state

theorem intact_of_receive (connection : Connection σ) (mode : Mode) (responseTo : UInt32)
    (state : ConnectionStatus σ) :
    Intact state ((connection.receive mode responseTo).after state) :=
  connection.lasting_intact.keeps_receive responseTo state
    (Intact.admitsReceiving connection mode _)

end Connection

end CommandLink
