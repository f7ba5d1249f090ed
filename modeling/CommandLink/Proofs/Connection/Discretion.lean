import CommandLink.Proofs.Connection.Publication

/-!
# What is not told of a command

Of a command that carries credentials its listener hears that it happened and how it ended, but not
what was in it or in its reply. However such a command ends, all that is told of it is discreet
(`discreet_of_command`), and what is told of two of them by one name, under one id, is the same when
both succeed or are refused alike, whatever they carried and whatever was replied
(`credentials_untold`).
-/

namespace CommandLink

open Connection

variable {σ τ α β : Type}

/-- The event that an entry of the journal tells of. -/
def Happening.event? : Happening → Option CommandEvent
  | told event => some event
  | _ => none

/-- The event that a signal is. -/
def Signal.event? : Signal → Option CommandEvent
  | told event => some event
  | wrote _ => none

/-- An event that tells neither a command nor a reply, and of a refusal nothing that the server
said. -/
def CommandEvent.Discreet (event : CommandEvent) : Prop :=
  match event.stage with
  | .started _ command => command = []
  | .succeeded reply => reply = []
  | .failed (.commandFailure _ codeName text _ response) =>
    codeName = none ∧ text = "" ∧ response = []
  | .failed _ => True

namespace ConnectionStatus

/-- All events that were told, in order. -/
def events (state : ConnectionStatus σ) : List CommandEvent := state.entries Happening.event?

/-- They are those among the signals. -/
theorem events_eq (state : ConnectionStatus σ) :
    state.events = state.signals.filterMap Signal.event? := by
  have hread : Happening.event? = fun happening => happening.signal?.bind Signal.event? := by
    funext happening
    cases happening <;> rfl
  unfold events signals entries
  rw [List.filterMap_filterMap, hread]

end ConnectionStatus

namespace Connection

variable {connection : Connection σ} {state next : ConnectionStatus σ}

/-! ## Events of a command -/

/-- The events of a command under way that are told: none where nobody hears of it. -/
def Dispatch.told (dispatch : Dispatch) (events : List CommandEvent) : List CommandEvent :=
  if dispatch.audience.isSome then events else []

theorem Dispatch.filterMap_heard (dispatch : Dispatch) (events : List CommandEvent) :
    (dispatch.heard events).filterMap Signal.event? = dispatch.told events := by
  unfold heard told
  split
  · rw [List.filterMap_map]
    exact List.filterMap_some
  · rfl

/-- Of what a command signals the write is no event. -/
theorem Dispatch.events_of_signals {dispatch : Dispatch} {begun ended : List CommandEvent}
    {bytes : Bytes} (h : next.signals =
      state.signals ++ dispatch.heard begun ++ [.wrote bytes] ++ dispatch.heard ended) :
    next.events = state.events ++ dispatch.told (begun ++ ended) := by
  have hwrote : List.filterMap Signal.event? [.wrote bytes] = [] := rfl
  have htold : dispatch.told begun ++ dispatch.told ended = dispatch.told (begun ++ ended) := by
    unfold told
    split <;> rfl
  rw [ConnectionStatus.events_eq, h, List.filterMap_append, List.filterMap_append,
    List.filterMap_append, hwrote, dispatch.filterMap_heard, dispatch.filterMap_heard,
    ← ConnectionStatus.events_eq, List.append_nil, List.append_assoc, htold]

/-- A command is refused: it was put into bytes and written, and a message was received that is a
reply to it and reports no success. -/
structure Refuses (connection : Connection σ) (mode : Mode) (message : Command)
    (state : ConnectionStatus σ) : Prop where
  usable : state.Usable
  replied : ∃ bytes written response received reply,
    connection.outgoing state message = .ok bytes ∧
    connection.call mode .writing (.wrote bytes) (connection.transport.write mode bytes)
      (state.tell (connection.dispatch state message).audience
        ((connection.dispatch state message).identity.started message)) = .ok () written ∧
    connection.receiveWithin mode state.profile.limits.messageSize written =
      .ok response received ∧
    Reply.parse response.header response.body.bytes message.requestId = .ok reply ∧
    reply.document.reportsSuccess = .ok false

/-- A command that is refused is not confirmed. -/
theorem Refuses.not_confirms {mode : Mode} {message : Command}
    (h : connection.Refuses mode message state) {bytes : Bytes}
    (hbytes : connection.outgoing state message = .ok bytes) (document : RawDocument) :
    ¬ connection.Confirms mode message state bytes document := by
  intro hconfirms
  obtain ⟨_, written, response, received, reply, hother, hcall, hreceive, hparse, hrefused⟩ :=
    h.replied
  cases hbytes.symm.trans hother
  obtain ⟨confirmed, hconfirmed, rfl, hsuccess⟩ := passes_of_confirmed hcall hreceive hconfirms
  cases hparse.symm.trans hconfirmed
  rw [hrefused] at hsuccess
  cases hsuccess

/-- **The events of a command**: that it started, and how it ended, if it came to anything. -/
theorem events_of_command (connection : Connection σ) (mode : Mode) (message : Command)
    (decode : RawDocument → Except LinkError α) (state : ConnectionStatus σ) :
    let dispatch := connection.dispatch state message
    let identity := dispatch.identity
    match connection.command mode message decode state with
    | .ok _ next => ∃ document, next.events =
        state.events ++ dispatch.told [identity.started message, identity.succeeded document]
    | .error error next =>
        (next = state ∧ ¬ connection.Refuses mode message state) ∨
        (∃ document, next.events = state.events ++ dispatch.told
          [identity.started message, identity.succeeded document, identity.failed error]) ∧
          ¬ connection.Refuses mode message state ∨
        next.events =
          state.events ++ dispatch.told [identity.started message, identity.failed error] := by
  dsimp only
  by_cases husable : state.Usable
  · cases hbytes : connection.outgoing state message with
    | error fault =>
      rw [command_of_outgoing_error husable hbytes]
      refine .inl ⟨rfl, fun hrefuses => ?_⟩
      obtain ⟨bytes, _, _, _, _, hother, -⟩ := hrefuses.replied
      cases hbytes.symm.trans hother
    | ok bytes =>
      have hsignals := signals_of_command mode decode husable hbytes
      cases hresult : connection.command mode message decode state with
      | ok value next =>
        rw [hresult] at hsignals
        obtain ⟨document, -, -, hsignals⟩ := hsignals
        exact ⟨document, Dispatch.events_of_signals hsignals⟩
      | error error next =>
        rw [hresult] at hsignals
        rcases hsignals with ⟨document, hconfirms, -, hsignals⟩ | ⟨-, hsignals⟩
        · exact .inr (.inl ⟨⟨document, Dispatch.events_of_signals hsignals⟩,
            fun hrefuses => hrefuses.not_confirms hbytes document hconfirms⟩)
        · exact .inr (.inr (Dispatch.events_of_signals hsignals))
  · obtain ⟨fault, hrefused⟩ := @command_of_not_usable _ _ connection _ mode message decode husable
    rw [hrefused]
    exact .inl ⟨rfl, fun hrefuses => husable hrefuses.usable⟩

/-- What is so of all events is so of those that are told. -/
theorem Dispatch.forall_mem_told {P : CommandEvent → Prop} (dispatch : Dispatch)
    {events : List CommandEvent} (h : ∀ event ∈ events, P event) :
    ∀ event ∈ dispatch.told events, P event := by
  unfold told
  split
  · exact h
  · exact nofun

/-- On an open connection a listener is told of all of them. -/
theorem told_of_listener {listener : Listener} (hlistener : connection.listener = some listener)
    (hopened : state.phase = .opened) (message : Command) (events : List CommandEvent) :
    (connection.dispatch state message).told events = events := by
  unfold Dispatch.told dispatch audience ConnectionStatus.isOpen
  rw [hlistener, hopened]
  rfl

end Connection

/-! ## Commands with credentials -/

namespace CommandIdentity

variable {identity : CommandIdentity} (hsensitive : identity.isSensitive = true)

include hsensitive

theorem started_of_isSensitive (message : Command) :
    identity.started message = ⟨identity, .started message.space.database []⟩ := by
  unfold started
  rw [if_pos hsensitive]

theorem succeeded_of_isSensitive (reply : RawDocument) :
    identity.succeeded reply = ⟨identity, .succeeded []⟩ := by
  unfold succeeded
  rw [if_pos hsensitive]

theorem failed_of_isSensitive (error : LinkError) :
    identity.failed error = ⟨identity, .failed error.withoutDetail⟩ := by
  unfold failed
  rw [if_pos hsensitive]

theorem discreet_failed (error : LinkError) : (identity.failed error).Discreet := by
  rw [failed_of_isSensitive hsensitive]
  cases error with
  | commandFailure code codeName text address response => exact ⟨rfl, rfl, rfl⟩
  | _ => trivial

end CommandIdentity

/-- **However a command with credentials ends**, all that is told of it is discreet. -/
theorem Connection.discreet_of_command (connection : Connection σ) (mode : Mode)
    {message : Command} (hsensitive : message.isSensitive = true)
    (decode : RawDocument → Except LinkError α) (state : ConnectionStatus σ) :
    ∃ told, ((connection.command mode message decode).after state).events = state.events ++ told ∧
      ∀ event ∈ told, event.Discreet := by
  let dispatch := connection.dispatch state message
  have hidentity : dispatch.identity.isSensitive = true := hsensitive
  have hstarted : (dispatch.identity.started message).Discreet := by
    rw [CommandIdentity.started_of_isSensitive hidentity]
    exact rfl
  have hsucceeded : ∀ document, (dispatch.identity.succeeded document).Discreet := by
    intro document
    rw [CommandIdentity.succeeded_of_isSensitive hidentity]
    exact rfl
  have hfailed := CommandIdentity.discreet_failed hidentity
  have hevents := connection.events_of_command mode message decode state
  unfold Action.after
  cases hresult : connection.command mode message decode state with
  | ok value next =>
    rw [hresult] at hevents
    obtain ⟨document, hevents⟩ := hevents
    exact ⟨_, hevents, dispatch.forall_mem_told
      (List.forall_mem_cons.mpr ⟨hstarted, List.forall_mem_singleton.mpr (hsucceeded document)⟩)⟩
  | error error next =>
    rw [hresult] at hevents
    rcases hevents with ⟨rfl, -⟩ | ⟨⟨document, hevents⟩, -⟩ | hevents
    · exact ⟨[], (List.append_nil _).symm, nofun⟩
    · exact ⟨_, hevents, dispatch.forall_mem_told
        (List.forall_mem_cons.mpr ⟨hstarted, List.forall_mem_cons.mpr
          ⟨hsucceeded document, List.forall_mem_singleton.mpr (hfailed error)⟩⟩)⟩
    · exact ⟨_, hevents, dispatch.forall_mem_told
        (List.forall_mem_cons.mpr ⟨hstarted, List.forall_mem_singleton.mpr (hfailed error)⟩)⟩

/-- What is told of a command with credentials that succeeds. -/
theorem Connection.events_of_credentials_ok {connection : Connection σ} {listener : Listener}
    (hlistener : connection.listener = some listener) {mode : Mode} {message : Command}
    (hsensitive : message.isSensitive = true) {decode : RawDocument → Except LinkError α}
    {state next : ConnectionStatus σ} (hopened : state.phase = .opened) {value : α}
    (h : connection.command mode message decode state = .ok value next) :
    let identity := CommandIdentity.ofMessage state.profile.connection message
    next.events = state.events ++
      [⟨identity, .started message.space.database []⟩, ⟨identity, .succeeded []⟩] := by
  have hidentity : (connection.dispatch state message).identity.isSensitive = true := hsensitive
  have hevents := connection.events_of_command mode message decode state
  rw [h] at hevents
  obtain ⟨document, hevents⟩ := hevents
  rwa [told_of_listener hlistener hopened, CommandIdentity.started_of_isSensitive hidentity,
    CommandIdentity.succeeded_of_isSensitive hidentity] at hevents

/-- What is told of one that is refused. -/
theorem Connection.events_of_credentials_refused {connection : Connection σ} {listener : Listener}
    (hlistener : connection.listener = some listener) {mode : Mode} {message : Command}
    (hsensitive : message.isSensitive = true) {decode : RawDocument → Except LinkError α}
    {state next : ConnectionStatus σ} (hopened : state.phase = .opened) {error : LinkError}
    (hrefuses : connection.Refuses mode message state)
    (h : connection.command mode message decode state = .error error next) :
    let identity := CommandIdentity.ofMessage state.profile.connection message
    next.events = state.events ++
      [⟨identity, .started message.space.database []⟩,
        ⟨identity, .failed error.withoutDetail⟩] := by
  have hidentity : (connection.dispatch state message).identity.isSensitive = true := hsensitive
  have hevents := connection.events_of_command mode message decode state
  rw [h] at hevents
  rcases hevents with ⟨-, hnot⟩ | ⟨-, hnot⟩ | hevents
  · exact absurd hrefuses hnot
  · exact absurd hrefuses hnot
  · rwa [told_of_listener hlistener hopened, CommandIdentity.started_of_isSensitive hidentity,
      CommandIdentity.failed_of_isSensitive hidentity] at hevents

/-- **What a command with credentials carries is not told, nor what is replied.** Take two commands
of one such name, under one id and for one database, each on an open connection with a listener and
in either mode, where the connections have the same identity and may otherwise differ, as may the
commands, their replies and what is made of these. If both succeed the same events are told of them,
and also if both are refused and fail with one code and one address. However a command of that name
ends, in any state, each event that is told of it is discreet. -/
theorem credentials_untold {message twin : Command} (hsensitive : message.isSensitive = true)
    (hname : twin.name = message.name) (hid : twin.requestId = message.requestId)
    (hdatabase : twin.space.database = message.space.database)
    {first : Connection σ} {second : Connection τ} {listener other : Listener}
    (hfirst : first.listener = some listener) (hsecond : second.listener = some other)
    {state : ConnectionStatus σ} {mirror : ConnectionStatus τ} (hstate : state.phase = .opened)
    (hmirror : mirror.phase = .opened)
    (hconnection : mirror.profile.connection = state.profile.connection) (mode form : Mode)
    (decode : RawDocument → Except LinkError α) (read : RawDocument → Except LinkError β) :
    (∀ value result next reflection,
      first.command mode message decode state = .ok value next →
      second.command form twin read mirror = .ok result reflection →
      ∃ told, next.events = state.events ++ told ∧ reflection.events = mirror.events ++ told) ∧
    (∀ code address codeName otherName text other response document next reflection,
      first.Refuses mode message state → second.Refuses form twin mirror →
      first.command mode message decode state =
        .error (.commandFailure code codeName text address response) next →
      second.command form twin read mirror =
        .error (.commandFailure code otherName other address document) reflection →
      ∃ told, next.events = state.events ++ told ∧ reflection.events = mirror.events ++ told) ∧
    ∀ state : ConnectionStatus σ,
      ∃ told, ((first.command mode message decode).after state).events = state.events ++ told ∧
        ∀ event ∈ told, event.Discreet := by
  have hcredentials : twin.isSensitive = true := by
    unfold Command.isSensitive
    rw [hname]
    exact hsensitive
  have hidentity : CommandIdentity.ofMessage mirror.profile.connection twin =
      CommandIdentity.ofMessage state.profile.connection message := by
    rw [CommandIdentity.ofMessage, hconnection, hid, hname, CommandIdentity.ofMessage]
  refine ⟨?_, ?_, first.discreet_of_command mode hsensitive decode⟩
  · intro value result next reflection hnext hreflection
    have htold := events_of_credentials_ok hfirst hsensitive hstate hnext
    have hsame := events_of_credentials_ok hsecond hcredentials hmirror hreflection
    rw [hidentity, hdatabase] at hsame
    exact ⟨_, htold, hsame⟩
  · intro code address codeName otherName text other response document next reflection hrefused
      hrefuses hnext hreflection
    have htold := events_of_credentials_refused hfirst hsensitive hstate hrefused hnext
    have hsame := events_of_credentials_refused hsecond hcredentials hmirror hrefuses hreflection
    rw [hidentity, hdatabase] at hsame
    exact ⟨_, htold, hsame⟩

/-- A login with a payload. -/
def Command.login (payload : String) : Command :=
  .ofCommand 1 "admin" [("saslStart", .int32 1), ("payload", .string payload)]

/-- An open connection with a listener, to a peer that replies whether it is `ok` and then more. -/
def ReadyPeer.replying (ok : UInt8) (more : Bytes) : ConnectionStatus ReadyPeer :=
  let document := Bytes.ofNat 4 (13 + more.length) ++
    [0x10, 0x6F, 0x6B, 0, ok, 0, 0, 0] ++ more ++ [0]
  (attended.run [.establish .blocking] (attended.start
    (.having (Header.encode ⟨UInt32.ofNat (21 + document.length), 10, 1, 2013⟩ ++
      [0, 0, 0, 0, 0] ++ document)) .initial)).1

/-- Of a login that succeeds the same is told as of another one that is replied a number as well,
and of one that is refused the same as of another one that is refused with a text. -/
theorem credentials_untold_login :
    (∃ value result next reflection told,
      ReadyPeer.attended.command .blocking (.login "a") RawDocument.toDocument
        (ReadyPeer.replying 1 []) = .ok value next ∧
      ReadyPeer.attended.command .awaited (.login "b") RawDocument.toDocument
        (ReadyPeer.replying 1 [0x10, 0x6E, 0, 2, 0, 0, 0]) = .ok result reflection ∧
      next.events = told ∧ reflection.events = told) ∧
    ∃ error fault next reflection told,
      ReadyPeer.attended.command .blocking (.login "a") RawDocument.toDocument
        (ReadyPeer.replying 0 []) = .error error next ∧
      ReadyPeer.attended.command .awaited (.login "b") RawDocument.toDocument
        (ReadyPeer.replying 0 [2, 0x65, 0x72, 0x72, 0x6D, 0x73, 0x67, 0, 2, 0, 0, 0, 0x6E, 0]) =
        .error fault reflection ∧
      next.events = told ∧ reflection.events = told := by
  have huntold {state mirror : ConnectionStatus ReadyPeer} (hstate : state.phase = .opened)
      (hmirror : mirror.phase = .opened)
      (hconnection : mirror.profile.connection = state.profile.connection) :=
    @credentials_untold _ _ _ _ (.login "a") (.login "b") rfl rfl rfl rfl ReadyPeer.attended
      ReadyPeer.attended (.recording []) (.recording []) rfl rfl _ _ hstate hmirror hconnection
      .blocking .awaited RawDocument.toDocument RawDocument.toDocument
  constructor
  · obtain ⟨hsucceeded, -, -⟩ := @huntold (ReadyPeer.replying 1 [])
      (ReadyPeer.replying 1 [0x10, 0x6E, 0, 2, 0, 0, 0]) rfl rfl rfl
    obtain ⟨told, hnext, hreflection⟩ := hsucceeded _ _ _ _ rfl rfl
    exact ⟨_, _, _, _, told, rfl, rfl, hnext, hreflection⟩
  · have hrefused : ReadyPeer.attended.Refuses .blocking (.login "a") (ReadyPeer.replying 0 []) :=
      ⟨⟨by decide, rfl⟩, _, _, _, _, _, rfl, rfl, rfl, rfl, rfl⟩
    have hrefuses : ReadyPeer.attended.Refuses .awaited (.login "b") (ReadyPeer.replying 0
        [2, 0x65, 0x72, 0x72, 0x6D, 0x73, 0x67, 0, 2, 0, 0, 0, 0x6E, 0]) :=
      ⟨⟨by decide, rfl⟩, _, _, _, _, _, rfl, rfl, rfl, rfl, rfl⟩
    obtain ⟨-, hfailed, -⟩ := @huntold (ReadyPeer.replying 0 []) (ReadyPeer.replying 0
      [2, 0x65, 0x72, 0x72, 0x6D, 0x73, 0x67, 0, 2, 0, 0, 0, 0x6E, 0]) rfl rfl rfl
    obtain ⟨told, hnext, hreflection⟩ := hfailed _ _ _ _ _ _ _ _ _ _ hrefused hrefuses rfl rfl
    exact ⟨_, _, _, _, told, rfl, rfl, hnext, hreflection⟩

end CommandLink
