import CommandLink.Proofs.Connection.Lasting

/-!
# What is entered in the journal

The journal of a connection is only added to. `Entered P` tells of two states that what was added in
between has a property, entry by entry; it lasts when the property holds of what any operation may
add. From it follows what a command may write (`writes_of_command`). What is read out of the journal
(`ConnectionStatus.entries`) grows by what is read in the entries that were added.
-/

namespace CommandLink

variable {σ α : Type} {P : Happening → Prop}

/-- The journal was added to, and all that was added has a property. -/
def Entered (P : Happening → Prop) (state next : ConnectionStatus σ) : Prop :=
  ∃ fresh, next.journal = state.journal ++ fresh ∧ ∀ happening ∈ fresh, P happening

namespace Entered

theorem refl (state : ConnectionStatus σ) : Entered P state state :=
  ⟨[], (List.append_nil _).symm, nofun⟩

theorem trans {state mid next : ConnectionStatus σ} (hfirst : Entered P state mid)
    (hsecond : Entered P mid next) : Entered P state next := by
  obtain ⟨first, hmid, hfirst⟩ := hfirst
  obtain ⟨second, hnext, hsecond⟩ := hsecond
  refine ⟨first ++ second, by rw [hnext, hmid, List.append_assoc], fun happening hmem => ?_⟩
  rcases List.mem_append.mp hmem with hmem | hmem
  · exact hfirst happening hmem
  · exact hsecond happening hmem

theorem note {happening : Happening} (h : P happening) (state : ConnectionStatus σ) :
    Entered P state (state.note happening) :=
  ⟨[happening], rfl, fun _ hmem => List.mem_singleton.mp hmem ▸ h⟩

/-- States with the same journal as before are as good. -/
theorem of_journal {state mid next : ConnectionStatus σ} (hentered : Entered P state mid)
    (hjournal : next.journal = mid.journal) : Entered P state next := by
  obtain ⟨fresh, hmid, hfresh⟩ := hentered
  exact ⟨fresh, hjournal.trans hmid, hfresh⟩

end Entered

/-! ## Reading the journal -/

namespace ConnectionStatus

variable {β : Type} {read : Happening → Option β}

/-- What is read out of the journal, entry by entry. -/
def entries (read : Happening → Option β) (state : ConnectionStatus σ) : List β :=
  state.journal.filterMap read

@[simp] theorem entries_note (read : Happening → Option β) (state : ConnectionStatus σ)
    (happening : Happening) :
    (state.note happening).entries read = state.entries read ++ (read happening).toList := by
  simp only [entries, note, List.filterMap_append, List.filterMap_cons, List.filterMap_nil]
  cases read happening with
  | none => rfl
  | some entry => rfl

/-- An event is read once if there is someone to hear of it, and of the log nothing is read. -/
theorem entries_tell (hlogged : ∀ record, read (.logged record) = none)
    (state : ConnectionStatus σ) (listener : Option Listener) (event : CommandEvent) :
    (state.tell listener event).entries read =
      state.entries read ++ if listener.isSome then (read (.told event)).toList else [] := by
  cases listener with
  | none => exact (List.append_nil _).symm
  | some listener =>
    let whole := state.entries read ++ (read (.told event)).toList
    refine tell_of_told (P := fun told => told.entries read = whole) (fun told record hread => ?_)
      (entries_note read state _) listener
    rw [entries_note, hlogged, Option.toList_none, List.append_nil, hread]

end ConnectionStatus

/-- Where nothing was entered that is read, the same is read as before. -/
theorem Entered.entries_eq {β : Type} {read : Happening → Option β} {state next : ConnectionStatus σ}
    (h : Entered (fun happening => read happening = none) state next) :
    next.entries read = state.entries read := by
  obtain ⟨fresh, hjournal, hfresh⟩ := h
  have hnone : fresh.filterMap read = [] := List.filterMap_eq_nil_iff.mpr hfresh
  rw [ConnectionStatus.entries, hjournal, List.filterMap_append, hnone, List.append_nil,
    ConnectionStatus.entries]

namespace Connection

variable {connection : Connection σ}

/-- What is entered has a property whenever the entries of the log and of closing have it. -/
theorem lasting_entered (connection : Connection σ) (hlogged : ∀ record, P (.logged record))
    (hwaited : P .waited) (hshut : P .shut) : connection.Lasting (Entered P) where
  refl := .refl
  trans := .trans
  logged state record := .note (hlogged record) state
  waited state := .note hwaited state
  ledger state _ := (Entered.refl state).of_journal rfl
  shut state := by
    have hstream : ∀ closed : ConnectionStatus σ,
        Entered P closed (connection.shutStream closed) := by
      intro closed
      unfold shutStream
      split
      · exact .note hshut closed
      · exact .refl closed
    unfold shut
    split
    · exact .refl state
    · exact (hstream { state with phase := .closed }).trans (.note (hlogged _) _)

/-- A call enters what it is. -/
theorem admits_entered {happening : Happening} {perform : σ → Answer α × σ} (h : P happening) :
    Admits (Entered P) happening perform :=
  fun state => Entered.note h { state with stream := (perform state.stream).2 }

/-- **All that a command writes** is what goes out for it in the state that it finds. -/
theorem writes_of_command (connection : Connection σ) (mode : Mode) (message : Command)
    (decode : RawDocument → Except LinkError α) (state : ConnectionStatus σ) :
    ∃ fresh, ((connection.command mode message decode).after state).journal =
        state.journal ++ fresh ∧
      ∀ bytes, .wrote bytes ∈ fresh → connection.outgoing state message = .ok bytes := by
  have hlasting : connection.Lasting (Entered fun happening => ∀ bytes,
      happening = .wrote bytes → connection.outgoing state message = .ok bytes) :=
    connection.lasting_entered nofun nofun nofun
  obtain ⟨fresh, hjournal, hfresh⟩ := hlasting.keeps_command
    (fun before event => .note nofun before) decode state
    (fun bytes hbytes => admits_entered fun _ hsame => Happening.wrote.inj hsame ▸ hbytes)
    { header := admits_entered nofun
      body := fun _ _ => admits_entered nofun
      spare := fun _ _ before => .note nofun before }
  exact ⟨fresh, hjournal, fun bytes hmem => hfresh _ hmem bytes rfl⟩

end Connection

end CommandLink
