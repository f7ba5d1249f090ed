import CommandLink.Proofs.Buffer.Holdings

/-!
# Released once, with what it held

Over any steps, with any number of places, what was lent is in one place or has been returned once
(`Holdings.accountsFor_run`), and the entries of the ledger tell just when buffers left their last
place and what they held then (`Holdings.mem_returned_run_iff`). A holder of one buffer and one
response does nothing else (`Custody.holdings_run`).
-/

namespace CommandLink

namespace Holdings

variable {n : Nat} {holdings : Holdings n} {source target : Fin n} {passage : Passage}
  {passed : Holding} {steps : List (HoldingStep n)}

/-! ## Runs -/

theorem run_append (holdings : Holdings n) (first rest : List (HoldingStep n)) :
    holdings.run (first ++ rest) = (holdings.run first).run rest := List.foldl_append

theorem run_append_singleton (holdings : Holdings n) (steps : List (HoldingStep n))
    (step : HoldingStep n) : holdings.run (steps ++ [step]) = (holdings.run steps).step step :=
  holdings.run_append steps [step]

/-- **The account of a run.** -/
theorem accountsFor_run (steps : List (HoldingStep n)) :
    ((vacant n).run steps).ledger.AccountsFor ((vacant n).run steps).loans := by
  induction steps using List.reverseRecOn with
  | nil =>
    change Ledger.empty.AccountsFor ((vacant n).held.filterMap Buffer.loan)
    rw [held_vacant]
    exact Ledger.accountsFor_empty
  | append_singleton steps step ih =>
    rw [run_append_singleton]
    exact accountsFor_step ih step

theorem lent_step (holdings : Holdings n) (step : HoldingStep n) :
    (holdings.step step).ledger.lent =
      holdings.ledger.lent + if step.borrows = true then 1 else 0 := by
  cases step with
  | take place bytes => exact holdings.lent_put place _
  | borrow place bytes => exact lent_put { holdings with ledger := _ } place _
  | edit place change =>
    rcases holdings.step_edit place change with ⟨buffer, -, hstep⟩ | hstep <;> rw [hstep] <;> rfl
  | pass passage source target =>
    rcases holdings.step_pass passage source target with ⟨-, passed, -, -, hstep⟩ | hstep
    · rw [hstep]
      exact lent_put (holdings.assign source none) target (some passed)
    · rw [hstep]
      rfl
  | drop place => exact holdings.lent_put place none

/-- As many buffers are lent as steps lend one. -/
theorem lent_run (steps : List (HoldingStep n)) :
    ((vacant n).run steps).ledger.lent = steps.countP HoldingStep.borrows := by
  induction steps using List.reverseRecOn with
  | nil => rfl
  | append_singleton steps step ih =>
    rw [run_append_singleton, lent_step, ih, List.countP_append, List.countP_singleton]

/-- **When buffers come back**: the entries are of those that left their last place in some step,
with the bytes that they held before it. -/
theorem mem_returned_run_iff (steps : List (HoldingStep n)) (loan : Nat) (bytes : Bytes) :
    (loan, bytes) ∈ ((vacant n).run steps).ledger.returned ↔
      ∃ before step after, steps = before ++ step :: after ∧
        ⟨bytes, some loan⟩ ∈ ((vacant n).run before).held ∧
        loan ∉ ((vacant n).run (before ++ [step])).loans := by
  induction steps using List.reverseRecOn with
  | nil =>
    refine ⟨nofun, ?_⟩
    rintro ⟨before, step, after, hsteps, -⟩
    exact absurd hsteps.symm (List.append_ne_nil_of_right_ne_nil _ (List.cons_ne_nil _ _))
  | append_singleton steps last ih =>
    obtain ⟨entries, hreturned, hentries⟩ := returned_step (accountsFor_run steps) last
    rw [run_append_singleton, hreturned, List.mem_append, ih, hentries, ← run_append_singleton]
    constructor
    · rintro (⟨before, step, after, rfl, hheld, hgone⟩ | ⟨hheld, hgone⟩)
      · exact ⟨before, step, after ++ [last], by rw [List.append_assoc]; rfl, hheld, hgone⟩
      · exact ⟨steps, last, [], rfl, hheld, hgone⟩
    · rintro ⟨before, step, after, hsteps, hheld, hgone⟩
      -- the step was the last one, or one before it
      rcases after.eq_nil_or_concat with rfl | ⟨rest, final, rfl⟩
      · obtain ⟨rfl, rfl⟩ := List.append_inj' hsteps rfl |>.imp_right (List.cons.inj · |>.1)
        exact .inr ⟨hheld, hgone⟩
      · rw [List.concat_eq_append, ← List.cons_append, ← List.append_assoc] at hsteps
        exact .inl ⟨before, step, rest, (List.append_inj' hsteps rfl).1, hheld, hgone⟩

/-! ## Passing on -/

/-- **What is passed on** is the same buffer where it arrives, and if there was nothing else then
nothing comes back. -/
theorem passed_on (hpassed : (holdings.places source).bind passage.pass? = some passed) :
    (holdings.step (.pass passage source target)).places target = some passed ∧
    (holdings.places source).map Holding.body = some passed.body ∧
    (holdings.places target = none ∨ target = source →
      (holdings.step (.pass passage source target)).ledger = holdings.ledger) := by
  obtain ⟨holding, hsource, hpass⟩ := Option.bind_eq_some_iff.mp hpassed
  rw [step_pass_of_some hpassed]
  refine ⟨places_put_self _ target _, ?_, ?_⟩
  · rw [hsource, Option.map_some, Passage.body_of_pass? hpass]
  · intro hvacant
    have hnone : (holdings.assign source none).places target = none := by
      by_cases hsame : target = source
      · exact if_pos hsame
      · exact (if_neg hsame).trans (hvacant.resolve_right hsame)
    unfold put
    rw [hnone]
    rfl

end Holdings

/-! ## One buffer and one response -/

namespace Custody

/-- What is in the two places, and the ledger, is all there is. -/
theorem ext_places {first second : Holdings 2}
    (hbuffer : first.places bufferPlace = second.places bufferPlace)
    (hresponse : first.places responsePlace = second.places responsePlace)
    (hledger : first.ledger = second.ledger) : first = second := by
  have hplaces : first.places = second.places := by
    funext place
    match place with
    | ⟨0, _⟩ => exact hbuffer
    | ⟨1, _⟩ => exact hresponse
  obtain ⟨places, ledger⟩ := first
  cases hplaces
  cases hledger
  rfl

/-- A step of a holder of one buffer and one response is done in two places. -/
theorem holdings_step (custody : Custody) (step : CustodyStep) :
    (custody.step step).holdings = custody.holdings.run (custody.stepsFor step) := by
  obtain ⟨buffer, response, ledger⟩ := custody
  cases step with
  | take bytes => cases buffer <;> exact ext_places rfl rfl rfl
  | borrow bytes => cases buffer <;> exact ext_places rfl rfl rfl
  | append bytes => cases buffer <;> exact ext_places rfl rfl rfl
  | reverse => cases buffer <;> exact ext_places rfl rfl rfl
  | respond header => cases buffer <;> cases response <;> exact ext_places rfl rfl rfl
  | intoBody => cases buffer <;> cases response <;> exact ext_places rfl rfl rfl
  | drop => cases buffer <;> cases response <;> exact ext_places rfl rfl rfl

theorem holdings_empty : empty.holdings = Holdings.vacant 2 := ext_places rfl rfl rfl

/-- **A holder of one buffer and one response** has two places. -/
theorem holdings_run (custody : Custody) (steps : List CustodyStep) :
    (custody.run steps).holdings = custody.holdings.run (custody.runFor steps) := by
  induction steps generalizing custody with
  | nil => rfl
  | cons step rest ih =>
    have hrest := ih (custody.step step)
    rw [holdings_step, ← Holdings.run_append] at hrest
    exact hrest

end Custody

/-- **Every buffer that was lent is released once, with what it holds then.** Take any steps, with
any number of places, that take and borrow buffers, change their bytes where they are, pass them on
to other places, into responses and out of them, put one in the place of another, and drop them. Of
the buffers that were borrowed each is in one place and has not been returned, or is in none and
has been returned once, so that there are as many in places and returned as were borrowed. The
ledger has an entry just for those that left their last place in some step, and the bytes in it are
those that the buffer held when that step was done. What is passed on is the same buffer in its new
place, and if there was nothing else there nothing is returned; other places than those that a step
is about are left alone. A holder of one buffer and one response does nothing but such steps. -/
theorem released_once {n : Nat} (steps : List (HoldingStep n)) :
    let run := (Holdings.vacant n).run
    let final := run steps
    (∀ loan, (final.ledger.returned.map Prod.fst).count loan + final.loans.count loan =
      if loan < steps.countP HoldingStep.borrows then 1 else 0) ∧
    final.ledger.returned.length + final.loans.length = steps.countP HoldingStep.borrows ∧
    (∀ loan bytes, (loan, bytes) ∈ final.ledger.returned ↔
      ∃ before step after, steps = before ++ step :: after ∧
        ⟨bytes, some loan⟩ ∈ (run before).held ∧ loan ∉ (run (before ++ [step])).loans) ∧
    (∀ passage source target passed,
      (final.places source).bind (Passage.pass? passage) = some passed →
      let next := final.step (.pass passage source target)
      next.places target = some passed ∧
      (final.places source).map Holding.body = some passed.body ∧
      (final.places target = none ∨ target = source → next.ledger = final.ledger)) ∧
    (∀ step other, other ∉ HoldingStep.concerns step →
      (final.step step).places other = final.places other) ∧
    ∀ steps : List CustodyStep, (Custody.empty.run steps).holdings =
      (Holdings.vacant 2).run (Custody.empty.runFor steps) := by
  have haccounts := Holdings.accountsFor_run steps
  have hlent := Holdings.lent_run steps
  refine ⟨?_, ?_, Holdings.mem_returned_run_iff steps, ?_,
    fun step other => Holdings.places_step_of_not_mem, ?_⟩
  · intro loan
    rw [← hlent]
    exact haccounts loan
  · rw [← hlent]
    exact haccounts.length
  · intro passage source target passed hpassed
    exact Holdings.passed_on hpassed
  · intro steps
    rw [← Custody.holdings_empty]
    exact Custody.empty.holdings_run steps

/-- A buffer grows and goes into a response; another is borrowed, and makes way for the first when
that comes out of the response again. -/
def Holdings.handedBack : List (HoldingStep 2) :=
  [.borrow Custody.bufferPlace [1, 2], .edit Custody.bufferPlace (· ++ [3]),
    .pass (.intoResponse ⟨19, 9, 7, 1, false⟩) Custody.bufferPlace Custody.responsePlace,
    .borrow Custody.bufferPlace [4],
    .pass .outOfResponse Custody.responsePlace Custody.bufferPlace]

/-- The second has been returned and the first has not, and passing it on once more returns
nothing. -/
theorem released_once_handed_back :
    let final := (Holdings.vacant 2).run Holdings.handedBack
    final.ledger.returned = [(1, [4])] ∧ final.held = [⟨[1, 2, 3], some 0⟩] ∧
      final.ledger.returned.length + final.loans.length =
        Holdings.handedBack.countP HoldingStep.borrows ∧
      (final.step (.pass .asItIs Custody.bufferPlace Custody.responsePlace)).ledger =
        final.ledger := by
  obtain ⟨-, hcount, -, hpass, -, -⟩ := released_once Holdings.handedBack
  have hpassed := hpass .asItIs Custody.bufferPlace Custody.responsePlace
    (.buffer ⟨[1, 2, 3], some 0⟩) rfl
  exact ⟨rfl, rfl, hcount, hpassed.2.2 (.inl rfl)⟩

end CommandLink
