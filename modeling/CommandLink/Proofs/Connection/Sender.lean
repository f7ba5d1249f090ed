import CommandLink.Proofs.Connection.Discretion

/-!
# The events of a command and their sender

A sender tells that a command succeeded at most once and never after it failed, and at most once
that it failed. Handed any events it tells of some that keep to this, and it withholds none just if
they all do (`EventSender.told_fresh_eq_iff`). A command never makes use of that: whatever happens
to it, the events it tells of keep to the order by themselves, so that its sender would tell of each
of them (`nothing_withheld`).
-/

namespace CommandLink

/-- One event of a command may be told some time before another. -/
def CommandEvent.MayPrecede (earlier later : CommandEvent) : Prop :=
  match earlier.stage, later.stage with
  | .succeeded _, .succeeded _ => False
  | .failed _, .succeeded _ => False
  | .failed _, .failed _ => False
  | _, _ => True

namespace EventSender

variable {sender next : EventSender} {event later : CommandEvent}

/-! ## What one event changes -/

/-- After an event that was told, a later one may be told just if it was allowed before and may
follow the first. -/
theorem isSome_admit?_of_admit? (h : sender.admit? event = some next) (later : CommandEvent) :
    (next.admit? later).isSome = true ↔
      (sender.admit? later).isSome = true ∧ event.MayPrecede later := by
  obtain ⟨identity, stage⟩ := event
  obtain ⟨other, ending⟩ := later
  obtain ⟨succeeded, failed⟩ := sender
  cases stage with
  | started database command =>
    cases h
    cases ending <;> simp [CommandEvent.MayPrecede]
  | succeeded reply =>
    cases succeeded <;> cases failed <;> cases h
    cases ending <;> simp [admit?, CommandEvent.MayPrecede]
  | failed error =>
    cases failed <;> cases h
    cases ending <;> simp [admit?, CommandEvent.MayPrecede]

/-! ## What a whole run of events comes to -/

/-- What is told is allowed from the first. -/
theorem isSome_admit?_of_mem_told {events : List CommandEvent} (h : later ∈ sender.told events) :
    (sender.admit? later).isSome = true := by
  induction events generalizing sender with
  | nil => cases h
  | cons event rest ih =>
    unfold told at h
    cases htells : sender.admit? event with
    | none =>
      rw [htells] at h
      exact ih h
    | some next =>
      rw [htells] at h
      rcases List.mem_cons.mp h with rfl | h
      · rw [htells, Option.isSome_some]
      · exact ((isSome_admit?_of_admit? htells later).mp (ih h)).1

/-- **What a sender tells** keeps to the order. -/
theorem pairwise_told (sender : EventSender) (events : List CommandEvent) :
    (sender.told events).Pairwise CommandEvent.MayPrecede := by
  induction events generalizing sender with
  | nil => exact .nil
  | cons event rest ih =>
    unfold told
    cases htells : sender.admit? event with
    | none => exact ih sender
    | some next =>
      refine .cons (fun later hlater => ?_) (ih next)
      exact ((isSome_admit?_of_admit? htells later).mp (isSome_admit?_of_mem_told hlater)).2

/-- Events that keep to the order, and are all allowed from the first, are all told. -/
theorem told_of_pairwise {events : List CommandEvent}
    (hallowed : ∀ event ∈ events, (sender.admit? event).isSome = true)
    (horder : events.Pairwise CommandEvent.MayPrecede) : sender.told events = events := by
  induction events generalizing sender with
  | nil => rfl
  | cons event rest ih =>
    obtain ⟨hfirst, hrest⟩ := List.pairwise_cons.mp horder
    obtain ⟨next, htells⟩ :=
      Option.isSome_iff_exists.mp (hallowed event (List.mem_cons_self ..))
    unfold told
    rw [htells]
    refine congrArg (event :: ·) (ih (fun later hlater => ?_) hrest)
    exact (isSome_admit?_of_admit? htells later).mpr
      ⟨hallowed later (List.mem_cons_of_mem _ hlater), hfirst later hlater⟩

/-- **A sender withholds nothing** just if the events keep to the order. -/
theorem told_fresh_eq_iff {events : List CommandEvent} :
    fresh.told events = events ↔ events.Pairwise CommandEvent.MayPrecede := by
  refine ⟨fun h => h ▸ pairwise_told fresh events, told_of_pairwise fun event _ => ?_⟩
  obtain ⟨identity, stage⟩ := event
  cases stage <;> rfl

end EventSender

namespace Connection.Dispatch

/-- Events that keep to the order would all be told, whether or not anybody hears of them. -/
theorem told_fresh_told (dispatch : Dispatch) {events : List CommandEvent}
    (horder : events.Pairwise CommandEvent.MayPrecede) :
    EventSender.fresh.told (dispatch.told events) = dispatch.told events := by
  rw [EventSender.told_fresh_eq_iff]
  unfold told
  split
  · exact horder
  · exact .nil

end Connection.Dispatch

/-- **No event of a command is withheld.** In any state and either mode, what is told of a command
keeps to the order by itself, so its sender tells of all of it. -/
theorem nothing_withheld {σ α : Type} (connection : Connection σ) (mode : Mode) (message : Command)
    (decode : RawDocument → Except LinkError α) (state : ConnectionStatus σ) :
    ∃ events, ((connection.command mode message decode).after state).events =
        state.events ++ events ∧
      EventSender.fresh.told events = events := by
  have hevents := connection.events_of_command mode message decode state
  let dispatch := connection.dispatch state message
  cases hresult : connection.command mode message decode state with
  | ok value next =>
    rw [hresult] at hevents
    obtain ⟨document, hevents⟩ := hevents
    have horder : [dispatch.identity.started message, dispatch.identity.succeeded document].Pairwise
        CommandEvent.MayPrecede := List.pairwise_pair.mpr trivial
    rw [Action.after_of_ok hresult]
    exact ⟨_, hevents, dispatch.told_fresh_told horder⟩
  | error error next =>
    rw [hresult] at hevents
    rw [Action.after_of_error hresult]
    rcases hevents with ⟨rfl, -⟩ | ⟨⟨document, hevents⟩, -⟩ | hevents
    · exact ⟨[], (List.append_nil _).symm, rfl⟩
    · -- that it failed may be told after that it succeeded
      have horder : [dispatch.identity.started message, dispatch.identity.succeeded document,
          dispatch.identity.failed error].Pairwise CommandEvent.MayPrecede := by
        refine .cons ?_ (List.pairwise_pair.mpr trivial)
        rw [List.forall_mem_cons, List.forall_mem_singleton]
        exact ⟨trivial, trivial⟩
      exact ⟨_, hevents, dispatch.told_fresh_told horder⟩
    · have horder : [dispatch.identity.started message, dispatch.identity.failed error].Pairwise
          CommandEvent.MayPrecede := List.pairwise_pair.mpr trivial
      exact ⟨_, hevents, dispatch.told_fresh_told horder⟩

end CommandLink
