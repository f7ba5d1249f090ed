import CommandLink.Connection.Ready
import CommandLink.Connection.Session
import CommandLink.Proofs.Connection.Dispatch
import CommandLink.Proofs.Connection.Journal
import CommandLink.Proofs.Message.Outbound

/-!
# Commands that carry credentials on the wire

A command names credentials by its first key, or by the first key of the document that it is wrapped
around. What a connection goes by is the name of the unwrapped command, and the wrapped document is
looked for anywhere in the command, not only at its front. So a command may name credentials and
still be masked by a later key, and then it goes out like any other command
(`credentials_plain_iff`).
-/

namespace CommandLink

namespace Document

/-- A document that names credentials by its first key, or wraps one that does. -/
inductive NamesCredentials : Document → Prop where
  | direct {key : String} {value : Bson} {rest : Document} (h : isSensitive key = true) :
    NamesCredentials ((key, value) :: rest)
  | wrapped {key : String} {value : Bson} {inner rest : Document} (h : isSensitive key = true) :
    NamesCredentials (("$query", .document ((key, value) :: inner)) :: rest)

/-- A document that holds, under the key of wrapped commands, one that names no credentials. -/
def IsMasked (document : Document) : Prop :=
  ∃ inner : Document, document.get? "$query" = some (.document inner) ∧
    isSensitive (inner.keys.head?.getD "") = false

/-- The command proper is the wrapped document, where there is one. -/
theorem unwrapped_of_get? {document inner : Document}
    (h : document.get? "$query" = some (.document inner)) : document.unwrapped = inner := by
  unfold unwrapped wrapperKey
  rw [h]
  rfl

/-- Where there is none it is the document itself. -/
theorem unwrapped_of_not_wrapped {document : Document}
    (h : ¬ ∃ inner, document.get? "$query" = some (.document inner)) :
    document.unwrapped = document := by
  unfold unwrapped wrapperKey
  cases hvalue : document.get? "$query" with
  | none => rfl
  | some value =>
    cases value with
    | document inner => exact absurd ⟨inner, hvalue⟩ h
    | _ => rfl

/-- **A command that names credentials is known by its name** unless it is masked. -/
theorem NamesCredentials.isSensitive_iff {document : Document}
    (hcredentials : document.NamesCredentials) :
    isSensitive (document.name?.getD "") = true ↔ ¬ document.IsMasked := by
  unfold name? IsMasked
  by_cases hwrapped : ∃ inner, document.get? "$query" = some (.document inner)
  · obtain ⟨inner, hinner⟩ := hwrapped
    rw [unwrapped_of_get? hinner, hinner]
    constructor
    · rintro hsensitive ⟨other, hother, hplain⟩
      cases hother
      rw [hsensitive] at hplain
      cases hplain
    · intro hunmasked
      cases hsensitive : isSensitive ((keys inner).head?.getD "") with
      | true => rfl
      | false => exact absurd ⟨inner, rfl, hsensitive⟩ hunmasked
  · rw [unwrapped_of_not_wrapped hwrapped]
    cases hcredentials with
    | direct h => exact ⟨fun _ ⟨inner, hinner, _⟩ => hwrapped ⟨inner, hinner⟩, fun _ => h⟩
    | wrapped h => exact absurd ⟨_, rfl⟩ hwrapped

end Document

/-- **When credentials go out as they are.** Whatever a command that names credentials writes, in
either form and either mode, are its plain bytes exactly if no compressor was chosen for sending or
the command is not masked; otherwise it is an envelope. -/
theorem credentials_plain_iff {σ α : Type} {connection : Connection σ} {message : Command}
    (hcredentials : message.command.NamesCredentials) (mode : Mode)
    (decode : RawDocument → Except LinkError α) (before : ConnectionStatus σ) :
    ∃ fresh, ((connection.command mode message decode).after before).journal =
        before.journal ++ fresh ∧
      ∀ bytes, .wrote bytes ∈ fresh →
        ∃ encoded, message.encode before.profile.limits = .ok encoded ∧
          (Header.fields encoded.bytes).opcode = (if message.form = .msg then 2013 else 2004) ∧
          (bytes = encoded.bytes ↔
            before.sendCompressor = none ∨ ¬ message.command.IsMasked) ∧
          ((Header.fields bytes).opcode = 2012 ↔
            ¬ (before.sendCompressor = none ∨ ¬ message.command.IsMasked)) := by
  obtain ⟨fresh, hjournal, hwrites⟩ := connection.writes_of_command mode message decode before
  refine ⟨fresh, hjournal, fun bytes hmem => ?_⟩
  obtain ⟨encoded, hencode, hout⟩ := Connection.outgoing_eq_ok (hwrites bytes hmem)
  have hopcode := Command.opcode_of_encode hencode
  have hform : (Header.fields encoded.bytes).opcode ≠ 2012 := by
    rw [hopcode]
    split <;> decide
  have hname : message.isSensitive = true ↔ ¬ message.command.IsMasked :=
    hcredentials.isSensitive_iff
  refine ⟨encoded, hencode, hopcode, ?_⟩
  rcases hout with ⟨hplain, rfl⟩ | ⟨compressor, hcompressor, hsensitive, hcompress⟩
  · rw [hname] at hplain
    exact ⟨⟨fun _ => hplain, fun _ => rfl⟩, ⟨fun h => absurd h hform, fun h => absurd hplain h⟩⟩
  · have hpacked := OutboundMessage.opcode_of_compress hcompress
    have hmasked : ¬ (before.sendCompressor = none ∨ ¬ message.command.IsMasked) := by
      rw [← hname, hcompressor, hsensitive]
      rintro (h | h) <;> cases h
    refine ⟨⟨fun hsame => ?_, fun h => absurd h hmasked⟩, ⟨fun _ => hmasked, fun _ => hpacked⟩⟩
    rw [hsame] at hpacked
    exact absurd hpacked hform

/-- A login with a search under the key of wrapped commands. -/
def maskedLogin : Command :=
  .ofCommand 1 "admin" [("saslStart", .int32 1), ("$query", .document [("find", .int32 1)])]

/-- An open connection that sends without packing, in envelopes. -/
def enveloping : ConnectionStatus ReadyPeer :=
  let connection := ReadyPeer.connection ⟨[⟨.noop, 0⟩]⟩
  (connection.run [.establish .blocking] (connection.start (.having []) .initial)).1

/-- A masked login on a connection with a compressor is one of the commands that the law is about,
and goes out in an envelope. -/
theorem credentials_plain_iff_masked :
    maskedLogin.command.NamesCredentials ∧ maskedLogin.command.IsMasked ∧
      ∃ fresh, (((ReadyPeer.connection ⟨[⟨.noop, 0⟩]⟩).command .awaited maskedLogin
          RawDocument.toDocument).after enveloping).journal = enveloping.journal ++ fresh ∧
        ∀ bytes, .wrote bytes ∈ fresh → (Header.fields bytes).opcode = 2012 := by
  have hcredentials : maskedLogin.command.NamesCredentials := .direct (by decide)
  have hmasked : maskedLogin.command.IsMasked := ⟨[("find", .int32 1)], rfl, by decide⟩
  obtain ⟨fresh, hjournal, hwrites⟩ := @credentials_plain_iff _ _
    (ReadyPeer.connection ⟨[⟨.noop, 0⟩]⟩) maskedLogin hcredentials .awaited RawDocument.toDocument
    enveloping
  refine ⟨hcredentials, hmasked, fresh, hjournal, fun bytes hmem => ?_⟩
  obtain ⟨encoded, -, -, -, henvelope⟩ := hwrites bytes hmem
  refine henvelope.mpr ?_
  rintro (hnone | hunmasked)
  · cases hnone
  · exact hunmasked hmasked

/-- **Credentials do go out in an envelope**: a login names credentials and is written, and what is
written is not its plain bytes. -/
theorem masked_login_enveloped :
    maskedLogin.command.NamesCredentials ∧
      ∃ encoded bytes, maskedLogin.encode enveloping.profile.limits = .ok encoded ∧
        .wrote bytes ∈ (((ReadyPeer.connection ⟨[⟨.noop, 0⟩]⟩).command .blocking maskedLogin
          RawDocument.toDocument).after enveloping).journal ∧
        bytes ≠ encoded.bytes ∧ (Header.fields bytes).opcode = 2012 := by
  refine ⟨.direct (by decide), _, _, rfl, @List.mem_of_getElem? _ _ 3 _ rfl, ?_, ?_⟩
  · decide
  · decide

end CommandLink
