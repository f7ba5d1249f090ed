import Mathlib.Data.List.Nodup
import CommandLink.Buffer

/-!
# The account of a ledger

A ledger accounts for the loans in hand when each buffer that it has lent was returned once, or is
in hand once. Then as many were returned and are in hand as were lent (`Ledger.AccountsFor.length`).
-/

namespace CommandLink

/-- The loan of a buffer, if it was lent. -/
def Buffer.loans (buffer : Buffer) : List Nat := buffer.loan.toList

/-- The loan that a response holds on to: that of its body. -/
def Response.loans (response : Response) : List Nat := response.body.loans

namespace Ledger

/-- How often a loan has been returned. -/
def returns (ledger : Ledger) (loan : Nat) : Nat := (ledger.returned.map Prod.fst).count loan

/-- Each loan was returned once or is in hand once, and there are no others. -/
def AccountsFor (ledger : Ledger) (hand : List Nat) : Prop :=
  ∀ loan, ledger.returns loan + hand.count loan = if loan < ledger.lent then 1 else 0

theorem accountsFor_empty : empty.AccountsFor [] := fun _ => rfl

namespace AccountsFor

variable {ledger : Ledger} {hand other : List Nat}

/-- In which order the loans are in hand makes no difference. -/
theorem perm (h : ledger.AccountsFor hand) (hperm : hand.Perm other) : ledger.AccountsFor other :=
  fun loan => hperm.count_eq loan ▸ h loan

/-- A buffer that is lent is in hand. -/
theorem lend (h : ledger.AccountsFor hand) (bytes : Bytes) :
    (ledger.lend bytes).2.AccountsFor (hand ++ (ledger.lend bytes).1.loans) := by
  intro loan
  have hbefore := h loan
  change ledger.returns loan + (hand ++ [ledger.lent]).count loan =
    if loan < ledger.lent + 1 then 1 else 0
  rw [List.count_append, List.count_singleton]
  by_cases hfresh : loan = ledger.lent
  · subst hfresh
    rw [if_neg (Nat.lt_irrefl _)] at hbefore
    simp only [beq_self_eq_true, if_true, if_pos (Nat.lt_succ_self _)]
    omega
  · have hother : (ledger.lent == loan) = false := beq_false_of_ne (Ne.symm hfresh)
    have hlt : loan < ledger.lent + 1 ↔ loan < ledger.lent := by omega
    simp only [hother, Bool.false_eq_true, if_false, Nat.add_zero, hlt]
    exact hbefore

/-- A buffer in hand that is let go of has been returned. -/
theorem drop {buffer : Buffer} (h : ledger.AccountsFor (hand ++ buffer.loans)) :
    (ledger.drop buffer).AccountsFor hand := by
  intro loan
  have hbefore := h loan
  unfold Ledger.drop
  unfold Buffer.loans at hbefore
  cases hloan : buffer.loan with
  | none =>
    rw [hloan, Option.toList_none, List.append_nil] at hbefore
    exact hbefore
  | some lent =>
    rw [hloan, Option.toList_some, List.count_append] at hbefore
    have hreturns : Ledger.returns
        { ledger with returned := ledger.returned ++ [(lent, buffer.bytes)] } loan =
        ledger.returns loan + [lent].count loan := by
      simp only [Ledger.returns, List.map_append, List.map_cons, List.map_nil, List.count_append]
    dsimp only
    rw [hreturns]
    omega

/-- What was returned and what is in hand are the buffers that were lent. -/
theorem length (h : ledger.AccountsFor hand) :
    ledger.returned.length + hand.length = ledger.lent := by
  have hperm : (ledger.returned.map Prod.fst ++ hand).Perm (List.range ledger.lent) := by
    refine List.perm_iff_count.mpr ?_
    intro loan
    rw [List.count_append, List.nodup_range.count]
    simpa only [List.mem_range, returns] using h loan
  simpa only [List.length_append, List.length_map, List.length_range] using hperm.length_eq

end AccountsFor

end Ledger

end CommandLink
