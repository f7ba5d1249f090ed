import CommandLink.Proofs.Bson.Spelling
import CommandLink.Proofs.Connection.Publication
import CommandLink.Reply.Success

/-!
# The check of a reply and its document

Whether a command succeeded is read off the reply before it is decoded: by the first `ok` in it, as
it stands. Decoding keeps the last of several values of one name, and takes a sub-document that
spells a number for the number. So the decoded document says the same of a reply in which no `ok`
contradicts another and none is spelled (`check_agrees_where_clear`), and may say the opposite of
any other (`check_contradicted`). A boolean cannot be spelled, so success that is spelled is a
number (`RawElement.SpellsSuccess.number`).
-/

namespace CommandLink

/-! ## What decoding keeps under a name -/

namespace Elements

variable {read : RawElement → Option Bson} {whole : Bool} {soFar document : Document}

/-- Code that is read alone or before its scope is code. -/
theorem tag_of_readCode {code : String} {elements : List RawElement} {value : Bson}
    (h : readCode read whole code elements = some value) : value.tag = 0x0D ∨ value.tag = 0x0F := by
  cases elements with
  | nil =>
    obtain ⟨-, ⟨⟩⟩ := Option.ite_none_right_eq_some.mp h
    exact .inl rfl
  | cons element rest =>
    obtain ⟨-, h⟩ := Option.ite_none_right_eq_some.mp h
    obtain ⟨scope, -, rfl⟩ := Option.map_eq_some_iff.mp h
    exact .inr rfl

/-- So is code behind its scope. -/
theorem tag_of_readScope {scope : Document} {elements : List RawElement} {value : Bson}
    (h : readScope scope elements = some value) : value.tag = 0x0F := by
  cases elements with
  | nil => cases h
  | cons element rest =>
    obtain ⟨-, h⟩ := Option.ite_none_right_eq_some.mp h
    obtain ⟨code, -, rfl⟩ := Option.map_eq_some_iff.mp h
    rfl

/-- A value of a kind that a document can spell: code, or what a reserved name says. -/
def Spelled (value : Bson) : Prop :=
  value.tag = 0x0D ∨ value.tag = 0x0F ∨ ∃ spelling : Bson.Spelling, value.tag = spelling.tag

/-- Neither a document nor a boolean is spelled. -/
theorem Spelled.tag_ne {value : Bson} (h : Spelled value) :
    value.tag ≠ 0x03 ∧ value.tag ≠ 0x08 := by
  rcases h with h | h | ⟨spelling, h⟩
  · rw [h]
    decide
  · rw [h]
    decide
  · rw [h]
    exact spelling.tag_ne

/-- **The first of some elements** decides what they spell, or is read as an entry of its own and
leaves it to the others. -/
theorem spelled_of_collect_cons {element : RawElement} {rest : List RawElement} {value : Bson}
    (h : collect read whole soFar (element :: rest) = some value) :
    Spelled value ∨ ∃ item, read element = some item ∧
      collect read whole (soFar.insert element.key item) rest = some value := by
  unfold collect at h
  split at h
  · obtain ⟨code, -, hcode⟩ := Option.bind_eq_some_iff.mp h
    rcases tag_of_readCode hcode with htag | htag
    · exact .inl (.inl htag)
    · exact .inl (.inr (.inl htag))
  · split at h
    · obtain ⟨scope, -, hscope⟩ := Option.bind_eq_some_iff.mp h
      exact .inl (.inr (.inl (tag_of_readScope hscope)))
    · split at h
      · rename_i spelling _
        exact .inl (.inr (.inr ⟨spelling, Bson.Spelling.tag_of_read? h⟩))
      · exact .inr (Option.bind_eq_some_iff.mp h)

/-- **What elements are read as** is a document or spelled. -/
theorem document_or_spelled {elements : List RawElement} {value : Bson}
    (h : collect read whole soFar elements = some value) :
    (∃ document, value = .document document) ∨ Spelled value := by
  induction elements generalizing soFar with
  | nil =>
    obtain ⟨-, ⟨⟩⟩ := Option.ite_none_right_eq_some.mp h
    exact .inl ⟨soFar, rfl⟩
  | cons element rest ih =>
    rcases spelled_of_collect_cons h with hspelled | ⟨item, -, hrest⟩
    · exact .inr hspelled
    · exact ih hrest

/-- **What a decoded document has under a name** is what the last element of the name reads, or what
was there before. -/
theorem get?_of_collect {elements : List RawElement}
    (h : collect read whole soFar elements = some (.document document)) (key : String) :
    document.get? key =
      (elements.filter (·.key = key)).getLast?.elim (soFar.get? key) read := by
  induction elements generalizing soFar with
  | nil =>
    obtain ⟨-, ⟨⟩⟩ := Option.ite_none_right_eq_some.mp h
    rfl
  | cons element rest ih =>
    rcases spelled_of_collect_cons h with hspelled | ⟨value, hread, hrest⟩
    · exact absurd rfl hspelled.tag_ne.1
    · rw [ih hrest]
      by_cases hkey : element.key = key
      · subst hkey
        rw [List.filter_cons_of_pos (by simp), List.getLast?_cons, Document.get?_insert_self]
        cases (rest.filter (·.key = element.key)).getLast? with
        | none => exact hread.symm
        | some last => rfl
      · rw [List.filter_cons_of_neg (by simpa using hkey),
          Document.get?_insert_of_ne soFar value (Ne.symm hkey)]

end Elements

/-! ## What an element says -/

namespace RawElement

variable {element : RawElement} {depth : Nat}

/-- The element, as it stands, is a number other than zero, or true. -/
def SaysSuccess (element : RawElement) : Prop :=
  ∃ value, element.leaf? = some value ∧ value.meansSuccess = true

/-- The element is a sub-document that is read as a number other than zero. -/
def SpellsSuccess (depth : Nat) (element : RawElement) : Prop :=
  element.tag = 0x03 ∧ ∃ value, element.read? depth = some value ∧ value.meansSuccess = true

/-- What spells success is read as a number: no boolean is spelled. -/
theorem SpellsSuccess.number (h : element.SpellsSuccess depth) :
    ∃ value, element.read? depth = some value ∧
      (value.tag = 0x01 ∨ value.tag = 0x10 ∨ value.tag = 0x12) := by
  obtain ⟨htag, value, hread, hmeans⟩ := h
  refine ⟨value, hread, ?_⟩
  cases depth with
  | zero => cases hread
  | succ depth =>
    unfold read? at hread
    simp only [htag] at hread
    rcases Elements.document_or_spelled hread with ⟨document, rfl⟩ | hspelled
    · cases hmeans
    · cases value with
      | double => exact .inl rfl
      | int32 => exact .inr (.inl rfl)
      | int64 => exact .inr (.inr rfl)
      | boolean => exact absurd rfl hspelled.tag_ne.2
      | _ => cases hmeans

/-- What holds documents, as it stands, does not mean success. -/
theorem not_saysSuccess (h : element.tag = 0x03 ∨ element.tag = 0x04 ∨ element.tag = 0x0F) :
    ¬ element.SaysSuccess := by
  have hleaf : element.leaf? = none := by
    rcases h with h | h | h <;> simp [leaf?, h]
  rintro ⟨value, hvalue, -⟩
  rw [hleaf] at hvalue
  cases hvalue

/-- **The check of an element** goes by what it says. -/
theorem meansSuccess?_eq {success : Bool} (h : element.meansSuccess? = some success) :
    success = true ↔ element.SaysSuccess := by
  unfold meansSuccess? at h
  split at h
  · rename_i htag
    obtain ⟨_, -, rfl⟩ := Option.map_eq_some_iff.mp h
    exact iff_of_false Bool.false_ne_true (not_saysSuccess (.inl htag))
  · rename_i htag
    obtain ⟨_, -, rfl⟩ := Option.map_eq_some_iff.mp h
    exact iff_of_false Bool.false_ne_true (not_saysSuccess (.inr (.inl htag)))
  · rename_i htag
    obtain ⟨_, -, rfl⟩ := Option.map_eq_some_iff.mp h
    exact iff_of_false Bool.false_ne_true (not_saysSuccess (.inr (.inr htag)))
  · obtain ⟨value, hvalue, rfl⟩ := Option.map_eq_some_iff.mp h
    refine ⟨fun hsuccess => ⟨value, hvalue, hsuccess⟩, ?_⟩
    rintro ⟨other, hother, hsuccess⟩
    cases hvalue.symm.trans hother
    exact hsuccess

/-- **What an element is read as** means success if it says or spells that. -/
theorem read?_meansSuccess_iff :
    (∃ value, element.read? (depth + 1) = some value ∧ value.meansSuccess = true) ↔
      element.SaysSuccess ∨ element.SpellsSuccess (depth + 1) := by
  by_cases htag : element.tag = 0x03
  · refine ⟨fun hread => .inr ⟨htag, hread⟩, ?_⟩
    rintro (hsaid | ⟨-, hread⟩)
    · exact absurd hsaid (not_saysSuccess (.inl htag))
    · exact hread
  · have hplain : (∃ value, element.read? (depth + 1) = some value ∧ value.meansSuccess = true) ↔
        element.SaysSuccess := by
      unfold read?
      split
      · rename_i hdocument
        exact absurd hdocument htag
      · -- an array is read as an array
        rename_i harray
        refine iff_of_false ?_ (not_saysSuccess (.inr (.inl harray)))
        rintro ⟨value, hvalue, hmeans⟩
        obtain ⟨-, hitems⟩ := Option.ite_none_right_eq_some.mp hvalue
        obtain ⟨items, -, rfl⟩ := Option.map_eq_some_iff.mp hitems
        cases hmeans
      · -- and code as code
        rename_i hcode
        refine iff_of_false ?_ (not_saysSuccess (.inr (.inr hcode)))
        rintro ⟨value, hvalue, hmeans⟩
        obtain ⟨parts, -, hscope⟩ := Option.bind_eq_some_iff.mp hvalue
        obtain ⟨entries, -, rfl⟩ := Option.map_eq_some_iff.mp hscope
        cases hmeans
      · exact Iff.rfl
    rw [hplain]
    exact ⟨.inl, fun h => h.resolve_right fun hspells => htag hspells.1⟩

end RawElement

/-! ## What a reply says -/

/-- A document reports success if what it has under `ok` means that. -/
theorem Document.reportsSuccess_iff {document : Document} :
    document.reportsSuccess = true ↔
      ∃ value, document.get? "ok" = some value ∧ value.meansSuccess = true := by
  unfold reportsSuccess
  cases document.get? "ok" <;> simp

namespace RawDocument

variable {raw : RawDocument} {success : Bool} {document : Document}

/-- The elements of a name, in their order. -/
def named (raw : RawDocument) (key : String) : List RawElement :=
  raw.elements.readable.filter (·.key = key)

/-- How deep the decoder looks into a reply: further than anything in it can lie. -/
def depth (raw : RawDocument) : Nat := raw.bytes.length

/-- No `ok` of the reply contradicts another, and none is a sub-document that spells success. -/
structure IsClear (raw : RawDocument) : Prop where
  agreed : ∀ element ∈ raw.named "ok", ∀ other ∈ raw.named "ok",
    element.SaysSuccess ↔ other.SaysSuccess
  unspelled : ∀ element ∈ raw.named "ok", ¬ element.SpellsSuccess raw.depth

/-- What is found under a name is the first element of it. -/
theorem head?_named {key : String} {found : Option RawElement} (h : raw.find? key = .ok found) :
    (raw.named key).head? = found := by
  rw [named, List.head?_filter]
  unfold find? at h
  split at h
  · rename_i element hfind
    cases h
    exact hfind
  · rename_i hfind
    split at h
    · cases h
      exact hfind
    · cases h

/-- **The check of a reply** goes by what its first `ok` says. -/
theorem reportsSuccess_eq_ok (h : raw.reportsSuccess = .ok success) :
    success = true ↔ ∃ first, (raw.named "ok").head? = some first ∧ first.SaysSuccess := by
  unfold reportsSuccess at h
  cases hfind : raw.find? "ok" with
  | error fault =>
    rw [hfind] at h
    cases h
  | ok found =>
    rw [hfind] at h
    rw [head?_named hfind]
    cases found with
    | none =>
      cases h
      exact iff_of_false Bool.false_ne_true (by rintro ⟨first, ⟨⟩, -⟩)
    | some first =>
      dsimp only at h
      cases hmeans : first.meansSuccess? with
      | none =>
        rw [hmeans] at h
        cases h
      | some means =>
        rw [hmeans] at h
        cases h
        rw [RawElement.meansSuccess?_eq hmeans]
        exact ⟨fun hsaid => ⟨first, rfl, hsaid⟩, by rintro ⟨_, ⟨⟩, hsaid⟩; exact hsaid⟩

/-- **What a decoded document has under a name** is what the last element of the name is read as. -/
theorem get?_of_toDocument (h : raw.toDocument = .ok document) (key : String) :
    document.get? key = (raw.named key).getLast?.bind (RawElement.read? raw.depth) := by
  unfold toDocument at h
  cases hdecode : raw.decode? with
  | none =>
    rw [hdecode] at h
    cases h
  | some decoded =>
    rw [hdecode] at h
    cases h
    obtain ⟨value, hvalue, hdocument⟩ := Option.bind_eq_some_iff.mp hdecode
    cases value <;> cases hdocument
    rw [Elements.get?_of_collect hvalue key, named, depth]
    cases (raw.elements.readable.filter (·.key = key)).getLast? <;> rfl

/-- **The decoded reply** goes by what its last `ok` says or spells. -/
theorem reportsSuccess_of_toDocument (h : raw.toDocument = .ok document) :
    document.reportsSuccess = true ↔
      ∃ last, (raw.named "ok").getLast? = some last ∧
        (last.SaysSuccess ∨ last.SpellsSuccess raw.depth) := by
  obtain ⟨depth, hdepth⟩ : ∃ depth, raw.depth = depth + 1 :=
    Nat.exists_eq_add_one.mpr (Nat.lt_of_lt_of_le (by decide) (Bytes.holds_iff.mp raw.framed.1))
  rw [Document.reportsSuccess_iff, get?_of_toDocument h, hdepth]
  simp only [Option.bind_eq_some_iff, ← RawElement.read?_meansSuccess_iff]
  constructor
  · rintro ⟨value, ⟨last, hlast, hread⟩, hmeans⟩
    exact ⟨last, hlast, value, hread, hmeans⟩
  · rintro ⟨last, hlast, value, hread, hmeans⟩
    exact ⟨value, ⟨last, hlast, hread⟩, hmeans⟩

/-- **In a clear reply** the check and the decoded document agree. -/
theorem IsClear.eq (hclear : raw.IsClear) (hcheck : raw.reportsSuccess = .ok success)
    (hdecode : raw.toDocument = .ok document) : success = document.reportsSuccess := by
  rw [Bool.eq_iff_iff, reportsSuccess_eq_ok hcheck, reportsSuccess_of_toDocument hdecode]
  constructor
  · rintro ⟨first, hfirst, hsaid⟩
    have hmem := List.mem_of_head? hfirst
    obtain ⟨last, hlast⟩ := Option.isSome_iff_exists.mp
      (List.getLast?_isSome.mpr (List.ne_nil_of_mem hmem))
    have hsame := hclear.agreed first hmem last (List.mem_of_getLast? hlast)
    exact ⟨last, hlast, .inl (hsame.mp hsaid)⟩
  · rintro ⟨last, hlast, hsaid | hspells⟩
    · have hmem := List.mem_of_getLast? hlast
      obtain ⟨first, hfirst⟩ := Option.isSome_iff_exists.mp
        (List.isSome_head?.mpr (List.ne_nil_of_mem hmem))
      have hsame := hclear.agreed first (List.mem_of_head? hfirst) last hmem
      exact ⟨first, hfirst, hsame.mpr hsaid⟩
    · exact absurd hspells (hclear.unspelled last (List.mem_of_getLast? hlast))

/-- A reply with one `ok` that is no sub-document is clear. -/
theorem isClear_of_once (honce : (raw.named "ok").length ≤ 1)
    (hplain : ∀ element ∈ raw.named "ok", element.tag ≠ 0x03) : raw.IsClear := by
  constructor
  · intro element helement other hother
    obtain ⟨i, hi, rfl⟩ := List.getElem_of_mem helement
    obtain ⟨j, hj, rfl⟩ := List.getElem_of_mem hother
    obtain rfl : i = j := by omega
    exact Iff.rfl
  · intro element helement hspells
    exact hplain element helement hspells.1

end RawDocument

/-! ## What comes of a reply -/

variable {σ α : Type}

/-- A reply that has been checked is decoded, or its document is the failure. -/
theorem Connection.complete_of_checked (connection : Connection σ) {dispatch : Dispatch}
    {response : Response} {reply : Reply} {success : Bool} {document : Document}
    (hparse :
      Reply.parse response.header response.body.bytes dispatch.identity.requestId = .ok reply)
    (hcheck : reply.document.reportsSuccess = .ok success)
    (hdecode : reply.document.toDocument = .ok document)
    (decode : RawDocument → Except LinkError α) (state : ConnectionStatus σ) :
    connection.complete dispatch response decode state =
      if success then
        Action.ofResult (decode reply.document)
          (state.tell dispatch.audience (dispatch.identity.succeeded reply.document))
      else .error (.ofRefusal document connection.address) state := by
  cases success with
  | true => exact complete_of_passes ⟨reply, hparse, rfl, hcheck⟩ decode state
  | false =>
    unfold complete
    rw [Action.ofResult_bind_of_ok hparse, Action.ofResult_bind_of_ok hcheck,
      if_neg Bool.false_ne_true, Action.ofResult_bind_of_ok hdecode]
    rfl

/-- **The check of a reply and its document**, of any reply that can be both checked and decoded.
The check finds success just if the first `ok` says so as it stands, and the document reports it
just if the last one says so, or is a sub-document that is read as a number other than zero. Where
no `ok` contradicts another and none is such a sub-document, the two agree: what a command comes to
is then told by the decoded document, which is the failure if it does not report success. -/
theorem check_agrees_where_clear {raw : RawDocument} {success : Bool} {document : Document}
    (hcheck : raw.reportsSuccess = .ok success) (hdecode : raw.toDocument = .ok document) :
    (success = true ↔ ∃ first, (raw.named "ok").head? = some first ∧ first.SaysSuccess) ∧
    (document.reportsSuccess = true ↔ ∃ last, (raw.named "ok").getLast? = some last ∧
      (last.SaysSuccess ∨ last.SpellsSuccess raw.depth)) ∧
    (raw.IsClear → success = document.reportsSuccess ∧
      ∀ (σ α : Type) (connection : Connection σ) (dispatch : Connection.Dispatch)
        (response : Response) (header : InboundHeader) (decode : RawDocument → Except LinkError α)
        (state : ConnectionStatus σ),
        Reply.parse response.header response.body.bytes dispatch.identity.requestId =
          .ok ⟨header, raw⟩ →
        connection.complete dispatch response decode state =
          if document.reportsSuccess then
            Action.ofResult (decode raw)
              (state.tell dispatch.audience (dispatch.identity.succeeded raw))
          else .error (.ofRefusal document connection.address) state) := by
  refine ⟨RawDocument.reportsSuccess_eq_ok hcheck,
    RawDocument.reportsSuccess_of_toDocument hdecode, fun hclear => ?_⟩
  have hsame := hclear.eq hcheck hdecode
  refine ⟨hsame, ?_⟩
  intro σ α connection dispatch response header decode state hparse
  rw [← hsame]
  exact connection.complete_of_checked hparse hcheck hdecode decode state

/-- A reply with nothing but `ok: 1` is clear, and checks as its document says. -/
theorem check_agrees_where_clear_one :
    ∃ raw document,
      RawDocument.ofBytes? [13, 0, 0, 0, 0x10, 111, 107, 0, 1, 0, 0, 0, 0] = some raw ∧
      raw.toDocument = .ok document ∧ raw.IsClear ∧
      raw.reportsSuccess = .ok document.reportsSuccess ∧ document.reportsSuccess = true := by
  let raw : RawDocument := ⟨[13, 0, 0, 0, 0x10, 111, 107, 0, 1, 0, 0, 0, 0], by decide⟩
  have hcheck : raw.reportsSuccess = .ok true := rfl
  have hdecode : raw.toDocument = .ok [("ok", .int32 1)] := rfl
  have hclear : raw.IsClear := RawDocument.isClear_of_once (by decide) (by decide)
  have hagrees := (check_agrees_where_clear hcheck hdecode).2.2 hclear
  exact ⟨raw, _, rfl, hdecode, hclear, hcheck.trans (congrArg Except.ok hagrees.1), rfl⟩

/-- **A reply can contradict its document.** One has `ok` twice, first 1 and then 0: the check finds
success, and the document reports none. In another `ok` is `$numberInt: "1"`: the check finds no
success, and the document reports it. -/
theorem check_contradicted :
    (∃ raw document,
      RawDocument.ofBytes?
          [21, 0, 0, 0, 0x10, 111, 107, 0, 1, 0, 0, 0, 0x10, 111, 107, 0, 0, 0, 0, 0, 0] =
        some raw ∧
      raw.reportsSuccess = .ok true ∧ raw.toDocument = .ok document ∧
      document.reportsSuccess = false) ∧
    ∃ raw document,
      RawDocument.ofBytes?
          [32, 0, 0, 0, 0x03, 111, 107, 0, 23, 0, 0, 0, 0x02, 36, 110, 117, 109, 98, 101, 114, 73,
            110, 116, 0, 2, 0, 0, 0, 49, 0, 0, 0] = some raw ∧
      raw.reportsSuccess = .ok false ∧ raw.toDocument = .ok document ∧
      document.reportsSuccess = true :=
  ⟨⟨_, _, rfl, rfl, rfl, rfl⟩, _, _, rfl, rfl, rfl, rfl⟩

end CommandLink
