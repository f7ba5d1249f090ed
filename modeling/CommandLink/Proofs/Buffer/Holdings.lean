import Mathlib.Data.List.Induction
import CommandLink.Buffer.Holdings
import CommandLink.Proofs.Buffer.Account

/-!
# Every buffer has one owner

Assigning to a place exchanges what it holds for what comes there and leaves the rest alone
(`Holdings.held_assign`). A step therefore keeps the account of the ledger with the loans in the
places (`Holdings.accountsFor_step`), and what it returns are the buffers that were in a place
before the step and are in none after it, with the bytes that they held (`Holdings.returned_step`).
-/

namespace CommandLink

/-- How a buffer is entered when it comes back, if it was lent. -/
def Buffer.slip? (buffer : Buffer) : Option (Nat × Bytes) :=
  buffer.loan.map fun loan => (loan, buffer.bytes)

theorem Buffer.slip?_eq_some_iff {buffer : Buffer} {loan : Nat} {bytes : Bytes} :
    buffer.slip? = some (loan, bytes) ↔ buffer = ⟨bytes, some loan⟩ := by
  obtain ⟨held, _ | number⟩ := buffer
  · exact ⟨nofun, nofun⟩
  · simp only [slip?, Option.map_some, Option.some.injEq, Prod.mk.injEq, Buffer.mk.injEq]
    exact and_comm

theorem Buffer.filterMap_loan_singleton (buffer : Buffer) :
    [buffer].filterMap Buffer.loan = buffer.loans := by
  obtain ⟨held, _ | number⟩ := buffer <;> rfl

theorem Ledger.returned_drop (ledger : Ledger) (buffer : Buffer) :
    (ledger.drop buffer).returned = ledger.returned ++ [buffer].filterMap Buffer.slip? := by
  obtain ⟨held, _ | number⟩ := buffer
  · exact (List.append_nil _).symm
  · rfl

@[simp] theorem Ledger.lent_drop (ledger : Ledger) (buffer : Buffer) :
    (ledger.drop buffer).lent = ledger.lent := by
  obtain ⟨held, _ | number⟩ := buffer <;> rfl

/-- What is passed on arrives with the same buffer. -/
theorem Passage.body_of_pass? {passage : Passage} {holding passed : Holding}
    (h : passage.pass? holding = some passed) : passed.body = holding.body := by
  cases passage <;> cases holding <;> cases h <;> rfl

/-- Among different keys, giving one of them another value exchanges the values. -/
theorem perm_filterMap_exchange {ι α : Type} [DecidableEq ι] [DecidableEq α] {key : ι}
    {keys : List ι} (hdifferent : keys.Nodup) (hmem : key ∈ keys) (values : ι → Option α)
    (value : Option α) :
    ((keys.filterMap fun other => if other = key then value else values other) ++
      (values key).toList).Perm (keys.filterMap values ++ value.toList) := by
  obtain ⟨before, after, rfl⟩ := List.append_of_mem hmem
  obtain ⟨-, hafter, hbefore⟩ := List.nodup_append.mp hdifferent
  have hsame : ∀ others : List ι, key ∉ others →
      (others.filterMap fun other => if other = key then value else values other) =
        others.filterMap values := by
    intro others hnot
    refine List.filterMap_congr fun other hother => if_neg ?_
    rintro rfl
    exact hnot hother
  have hsplit : ∀ values : ι → Option α, (before ++ key :: after).filterMap values =
      before.filterMap values ++ ((values key).toList ++ after.filterMap values) := by
    intro values
    rw [List.filterMap_append, ← List.singleton_append, List.filterMap_append]
    cases hvalue : values key with
    | none => simp only [List.filterMap_cons_none hvalue, List.filterMap_nil, Option.toList_none]
    | some found =>
      simp only [List.filterMap_cons_some hvalue, List.filterMap_nil, Option.toList_some]
  have hnot : key ∉ before := fun h => hbefore key h key (List.mem_cons_self ..) rfl
  rw [hsplit, hsplit, hsame before hnot, hsame after (List.nodup_cons.mp hafter).1, if_pos rfl]
  refine List.perm_iff_count.mpr ?_
  intro found
  simp only [List.count_append]
  omega

namespace Holdings

variable {n : Nat} {holdings next : Holdings n} {place source target : Fin n}
  {holding passed : Holding} {gone : List Buffer} {steps : List (HoldingStep n)}

/-! ## Places -/

/-- The buffer of a place, if there is one. -/
def bodies (holding : Option Holding) : List Buffer := holding.toList.map Holding.body

/-- **An exchange**: what comes to a place takes the turn of what was there. -/
theorem held_assign (holdings : Holdings n) (place : Fin n) (holding : Option Holding) :
    ((holdings.assign place holding).held ++ bodies (holdings.places place)).Perm
      (holdings.held ++ bodies holding) := by
  rw [held, held, bodies, bodies, ← List.map_append, ← List.map_append]
  exact (perm_filterMap_exchange (List.nodup_finRange n) (List.mem_finRange place)
    holdings.places holding).map Holding.body

theorem loans_assign (holdings : Holdings n) (place : Fin n) (holding : Option Holding) :
    ((holdings.assign place holding).loans ++
      (bodies (holdings.places place)).filterMap Buffer.loan).Perm
      (holdings.loans ++ (bodies holding).filterMap Buffer.loan) := by
  rw [loans, loans, ← List.filterMap_append, ← List.filterMap_append]
  exact (holdings.held_assign place holding).filterMap Buffer.loan

/-- The buffer of a place is held. -/
theorem body_mem_held (h : holdings.places place = some holding) :
    holding.body ∈ holdings.held :=
  List.mem_map_of_mem (List.mem_filterMap.mpr ⟨place, List.mem_finRange place, h⟩)

theorem held_vacant (n : Nat) : (vacant n).held = [] := by
  rw [held, List.map_eq_nil_iff, List.filterMap_eq_nil_iff]
  exact fun _ _ => rfl

theorem places_put_self (holdings : Holdings n) (place : Fin n) (holding : Option Holding) :
    (holdings.put place holding).places place = holding := if_pos rfl

theorem places_assign_of_ne {other : Fin n} (h : other ≠ place) (holding : Option Holding) :
    (holdings.assign place holding).places other = holdings.places other := if_neg h

theorem lent_put (holdings : Holdings n) (place : Fin n) (holding : Option Holding) :
    (holdings.put place holding).ledger.lent = holdings.ledger.lent := by
  unfold put
  cases holdings.places place with
  | none => rfl
  | some old => exact holdings.ledger.lent_drop old.body

theorem returned_put (holdings : Holdings n) (place : Fin n) (holding : Option Holding) :
    (holdings.put place holding).ledger.returned =
      holdings.ledger.returned ++ (bodies (holdings.places place)).filterMap Buffer.slip? := by
  unfold put
  cases holdings.places place with
  | none => exact (List.append_nil _).symm
  | some old => exact holdings.ledger.returned_drop old.body

/-! ## Steps -/

/-- A buffer that is to be changed is there, or nothing happens. -/
theorem step_edit (holdings : Holdings n) (place : Fin n) (change : Bytes → Bytes) :
    (∃ buffer, holdings.places place = some (.buffer buffer) ∧
      holdings.step (.edit place change) =
        holdings.assign place (some (.buffer { buffer with bytes := change buffer.bytes }))) ∨
    holdings.step (.edit place change) = holdings := by
  unfold step
  dsimp only
  split
  · rename_i buffer hplace
    exact .inl ⟨buffer, hplace, rfl⟩
  · exact .inr rfl

/-- What can be passed on leaves its place and is put in the other. -/
theorem step_pass_of_some {passage : Passage}
    (h : (holdings.places source).bind passage.pass? = some passed) :
    holdings.step (.pass passage source target) =
      (holdings.assign source none).put target (some passed) := by
  unfold step
  dsimp only
  rw [h]

/-- Something that can be passed on is there, or nothing happens. -/
theorem step_pass (holdings : Holdings n) (passage : Passage) (source target : Fin n) :
    (∃ holding passed, holdings.places source = some holding ∧
      passage.pass? holding = some passed ∧
      holdings.step (.pass passage source target) =
        (holdings.assign source none).put target (some passed)) ∨
    holdings.step (.pass passage source target) = holdings := by
  cases hpassed : (holdings.places source).bind passage.pass? with
  | some passed =>
    obtain ⟨holding, hsource, hpass⟩ := Option.bind_eq_some_iff.mp hpassed
    exact .inl ⟨holding, passed, hsource, hpass, step_pass_of_some hpassed⟩
  | none =>
    refine .inr ?_
    unfold step
    dsimp only
    rw [hpassed]

/-- **A step leaves other places alone** than those that it is about. -/
theorem places_step_of_not_mem {step : HoldingStep n} {other : Fin n}
    (h : other ∉ step.concerns) : (holdings.step step).places other = holdings.places other := by
  cases step with
  | take place bytes => exact places_assign_of_ne (List.ne_of_not_mem_cons h) _
  | borrow place bytes => exact places_assign_of_ne (List.ne_of_not_mem_cons h) _
  | edit place change =>
    rcases holdings.step_edit place change with ⟨buffer, -, hstep⟩ | hstep
    · rw [hstep]
      exact places_assign_of_ne (List.ne_of_not_mem_cons h) _
    · rw [hstep]
  | pass passage source target =>
    have hsource : other ≠ source := List.ne_of_not_mem_cons h
    have htarget : other ≠ target :=
      List.ne_of_not_mem_cons (List.not_mem_of_not_mem_cons h)
    rcases holdings.step_pass passage source target with ⟨-, passed, -, -, hstep⟩ | hstep
    · rw [hstep]
      exact (places_assign_of_ne htarget (some passed)).trans (places_assign_of_ne hsource none)
    · rw [hstep]
  | drop place => exact places_assign_of_ne (List.ne_of_not_mem_cons h) _

/-! ## The account -/

/-- Putting something in a place keeps the account, if what comes there is in hand. -/
theorem accountsFor_put {holding : Option Holding}
    (h : holdings.ledger.AccountsFor
      (holdings.loans ++ (bodies holding).filterMap Buffer.loan)) :
    (holdings.put place holding).ledger.AccountsFor (holdings.put place holding).loans := by
  have hexchanged := h.perm (holdings.loans_assign place holding).symm
  change ((holdings.places place).elim holdings.ledger fun old =>
    holdings.ledger.drop old.body).AccountsFor (holdings.assign place holding).loans
  cases hplace : holdings.places place with
  | none =>
    rw [hplace] at hexchanged
    exact (List.append_nil (holdings.assign place holding).loans) ▸ hexchanged
  | some old =>
    rw [hplace] at hexchanged
    refine Ledger.AccountsFor.drop ?_
    rw [← Buffer.filterMap_loan_singleton]
    exact hexchanged

/-- Changing bytes where they are changes no loan. -/
theorem loans_edit {buffer : Buffer} (bytes : Bytes)
    (h : holdings.places place = some (.buffer buffer)) :
    (holdings.assign place (some (.buffer { buffer with bytes }))).loans.Perm
      holdings.loans := by
  have hexchanged := holdings.loans_assign place (some (.buffer { buffer with bytes }))
  rw [h] at hexchanged
  exact (List.perm_append_right_iff _).mp hexchanged

/-- What is passed on is in hand when it has left its place. -/
theorem loans_leave (hsource : holdings.places source = some holding)
    (hbody : passed.body = holding.body) :
    ((holdings.assign source none).loans ++
      (bodies (some passed)).filterMap Buffer.loan).Perm holdings.loans := by
  have hexchanged := holdings.loans_assign source none
  rw [hsource] at hexchanged
  change ((holdings.assign source none).loans ++ [passed.body].filterMap Buffer.loan).Perm _
  rw [hbody, ← List.append_nil holdings.loans]
  exact hexchanged

/-- **A step keeps the account** with the loans that are in places. -/
theorem accountsFor_step (h : holdings.ledger.AccountsFor holdings.loans)
    (step : HoldingStep n) :
    (holdings.step step).ledger.AccountsFor (holdings.step step).loans := by
  cases step with
  | take place bytes =>
    refine accountsFor_put ?_
    exact (List.append_nil holdings.loans).symm ▸ h
  | borrow place bytes => exact accountsFor_put (h.lend bytes)
  | edit place change =>
    rcases holdings.step_edit place change with ⟨buffer, hplace, hstep⟩ | hstep
    · rw [hstep]
      exact h.perm (loans_edit (change buffer.bytes) hplace).symm
    · rwa [hstep]
  | pass passage source target =>
    rcases holdings.step_pass passage source target with
      ⟨holding, passed, hsource, hpass, hstep⟩ | hstep
    · rw [hstep]
      exact accountsFor_put (h.perm (loans_leave hsource (Passage.body_of_pass? hpass)).symm)
    · rwa [hstep]
  | drop place =>
    refine accountsFor_put ?_
    exact (List.append_nil holdings.loans).symm ▸ h

/-! ## What is let go of -/

/-- These are the buffers that are let go of on the way: they were held, they are returned with the
bytes that they held, and all others that were lent are still in some place. -/
structure LetsGo (holdings next : Holdings n) (gone : List Buffer) : Prop where
  returned : next.ledger.returned = holdings.ledger.returned ++ gone.filterMap Buffer.slip?
  held : gone ⊆ holdings.held
  kept : ∀ buffer ∈ holdings.held, ∀ loan, buffer.loan = some loan →
    buffer ∈ gone ∨ loan ∈ next.loans

theorem mem_loans {buffer : Buffer} {loan : Nat} (hmem : buffer ∈ holdings.held)
    (hloan : buffer.loan = some loan) : loan ∈ holdings.loans :=
  List.mem_filterMap.mpr ⟨buffer, hmem, hloan⟩

/-- Putting something in a place lets go of what was there. -/
theorem letsGo_put (holdings : Holdings n) (place : Fin n) (holding : Option Holding) :
    LetsGo holdings (holdings.put place holding) (bodies (holdings.places place)) := by
  refine ⟨holdings.returned_put place holding, ?_, ?_⟩
  · intro buffer hmem
    obtain ⟨old, hold, rfl⟩ := List.mem_map.mp hmem
    exact body_mem_held (Option.mem_toList.mp hold)
  · intro buffer hmem loan hloan
    have hexchanged : buffer ∈ (holdings.assign place holding).held ++
        bodies (holdings.places place) :=
      (holdings.held_assign place holding).mem_iff.mpr (List.mem_append_left _ hmem)
    rcases List.mem_append.mp hexchanged with hstill | hgone
    · have hloans : loan ∈ (holdings.put place holding).loans := mem_loans hstill hloan
      exact .inr hloans
    · exact .inl hgone

/-- Passing something on lets go of what else was where it arrives. -/
theorem letsGo_pass (hsource : holdings.places source = some holding)
    (hbody : passed.body = holding.body) :
    LetsGo holdings ((holdings.assign source none).put target (some passed))
      (bodies ((holdings.assign source none).places target)) := by
  have hexchanged := holdings.held_assign source none
  have hput := letsGo_put (holdings.assign source none) target (some passed)
  rw [hsource] at hexchanged
  have hleft : ∀ buffer, buffer ∈ holdings.held ↔
      buffer ∈ (holdings.assign source none).held ∨ buffer = holding.body := by
    intro buffer
    have hmem := hexchanged.mem_iff (a := buffer)
    simpa [bodies] using hmem.symm
  refine ⟨hput.returned, fun buffer hmem => (hleft buffer).mpr (.inl (hput.held hmem)), ?_⟩
  intro buffer hmem loan hloan
  rcases (hleft buffer).mp hmem with hstill | rfl
  · exact hput.kept buffer hstill loan hloan
  · have harrived := body_mem_held
      (places_put_self (holdings.assign source none) target (some passed))
    rw [hbody] at harrived
    exact .inr (mem_loans harrived hloan)

/-- Changing nothing, or bytes where they are, lets go of nothing. -/
theorem letsGo_of_perm (hledger : next.ledger = holdings.ledger)
    (hloans : next.loans.Perm holdings.loans) : LetsGo holdings next [] := by
  refine ⟨?_, List.nil_subset _, ?_⟩
  · rw [hledger, List.filterMap_nil, List.append_nil]
  · intro buffer hmem loan hloan
    exact .inr (hloans.mem_iff.mpr (mem_loans hmem hloan))

/-- **A step** lets go of what was in the place where something else comes, and of nothing else. -/
theorem exists_letsGo_step (holdings : Holdings n) (step : HoldingStep n) :
    ∃ gone, LetsGo holdings (holdings.step step) gone := by
  cases step with
  | take place bytes => exact ⟨_, holdings.letsGo_put place _⟩
  | borrow place bytes =>
    -- lending changes the ledger, but neither what is held nor what was returned
    have hput := letsGo_put { holdings with ledger := (holdings.ledger.lend bytes).2 } place
      (some (.buffer (holdings.ledger.lend bytes).1))
    exact ⟨_, hput.returned, hput.held, hput.kept⟩
  | edit place change =>
    rcases holdings.step_edit place change with ⟨buffer, hplace, hstep⟩ | hstep
    · rw [hstep]
      exact ⟨[], letsGo_of_perm rfl (loans_edit (change buffer.bytes) hplace)⟩
    · rw [hstep]
      exact ⟨[], letsGo_of_perm rfl (.refl _)⟩
  | pass passage source target =>
    rcases holdings.step_pass passage source target with
      ⟨holding, passed, hsource, hpass, hstep⟩ | hstep
    · rw [hstep]
      exact ⟨_, letsGo_pass hsource (Passage.body_of_pass? hpass)⟩
    · rw [hstep]
      exact ⟨[], letsGo_of_perm rfl (.refl _)⟩
  | drop place => exact ⟨_, holdings.letsGo_put place none⟩

/-- **What a step returns** are the buffers that were held before it and are held no more after it,
each with the bytes that it held. -/
theorem returned_step (h : holdings.ledger.AccountsFor holdings.loans) (step : HoldingStep n) :
    ∃ entries, (holdings.step step).ledger.returned = holdings.ledger.returned ++ entries ∧
      ∀ loan bytes, (loan, bytes) ∈ entries ↔
        ⟨bytes, some loan⟩ ∈ holdings.held ∧ loan ∉ (holdings.step step).loans := by
  obtain ⟨gone, hgone⟩ := holdings.exists_letsGo_step step
  refine ⟨gone.filterMap Buffer.slip?, hgone.returned, ?_⟩
  intro loan bytes
  constructor
  · intro hentry
    obtain ⟨buffer, hmem, hbuffer⟩ := List.mem_filterMap.mp hentry
    rw [Buffer.slip?_eq_some_iff] at hbuffer
    subst hbuffer
    refine ⟨hgone.held hmem, ?_⟩
    have hreturned : 0 < (holdings.step step).ledger.returns loan := by
      refine List.count_pos_iff.mpr (List.mem_map.mpr ⟨(loan, bytes), ?_, rfl⟩)
      rw [hgone.returned]
      exact List.mem_append_right _ hentry
    have haccount := accountsFor_step h step loan
    refine List.count_eq_zero.mp ?_
    split at haccount <;> omega
  · rintro ⟨hmem, hnone⟩
    refine List.mem_filterMap.mpr ⟨⟨bytes, some loan⟩, ?_, rfl⟩
    exact (hgone.kept _ hmem loan rfl).resolve_right hnone

end Holdings

end CommandLink
