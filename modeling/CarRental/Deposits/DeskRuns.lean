import CarRental.Payouts.DepositFrame

/-!
# Deposit calls at a checkout are runs of the desk

`DepositDesk` cuts a release and a settlement at the claim of the row and at the answer of the
refund, and takes that answer from outside.  The calls of a checkout run to their end, with the
refund that the payment services make.  To the desk they are its steps one after the other
(`deposit_calls_simulated`): what its law says of every interleaving it says of them.
-/

namespace CarRental

open Runs

/-- The row of the checkout, and nothing in flight. -/
structure DepositDesk.Shows (desk : DepositDesk) (s : Checkout) : Prop where
  deposit : desk.deposit = s.securityDeposit
  status : desk.bookingStatus = s.booking.status
  quiet : desk.operations = []

/-- A call of the deposits service, as its callers make it: only approved amounts are settled, and
what has been deducted is in its column. -/
def DepositServiceCall (s : Checkout) : DepositAction → Prop
  | .holdDeposit _ _ _ | .recordCollateral _ _ _ | .setStatus _ => True
  | .releaseDeposit _ _ => ∀ deposit ∈ s.securityDeposit, |deposit.deductedAmount| < 10 ^ 10
  | .settleDeduction deductAmount _ _ => 0 < deductAmount
  | .payment _ | .gatewaySettles _ | .executeReturn _ _ _ _ => False

section Steps

variable {desk : DepositDesk} {deposit : SecurityDeposit} {config : PaymentConfig} {s : Checkout}

open DepositDesk

theorem run_claim_finish (hdeposit : desk.deposit = some deposit) (hheld : deposit.status = .held)
    (hquiet : desk.operations = []) (call : DepositCall)
    (refunded : Option (Option GatewayRefundId)) :
    let ended := run step (desk.addOperation (some ⟨call, deposit, false⟩))
      [.claim ⟨call, deposit, false⟩, .finish ⟨call, deposit, true⟩ refunded]
    ended.deposit = desk.runOperation ⟨call, deposit, true⟩ refunded ∧
      ended.bookingStatus = desk.bookingStatus ∧ ended.operations = [] := by
  have hclaim : (step (desk.addOperation (some ⟨call, deposit, false⟩))
      (.claim ⟨call, deposit, false⟩)) = { desk with
        deposit := some (DepositOperation.claimRow ⟨call, deposit, true⟩ deposit)
        operations := [⟨call, deposit, true⟩] } := by
    cases call <;> simp [step, addOperation, claimDeposit, hdeposit, hheld, hquiet,
      DepositOperation.claimRow, DepositOperation.targetStatus, DepositOperation.remaining,
      DepositOperation.deducted, DepositOperation.deductedPaise]
  rw [run_cons, hclaim]
  have hclaimed : desk.claimDeposit ⟨call, deposit, true⟩ = { desk with
        deposit := some (DepositOperation.claimRow ⟨call, deposit, true⟩ deposit)
        operations := [⟨call, deposit, true⟩] } := by
    simp [claimDeposit, hdeposit, hheld, hquiet]
  rw [runOperation, hclaimed]
  simp only [run_cons, run_nil, step, List.mem_singleton, and_self, if_true, List.erase_cons_head]
  unfold finishOperation
  split
  · cases refunded <;> exact ⟨rfl, rfl, rfl⟩
  · exact ⟨rfl, rfl, rfl⟩

theorem DepositDesk.Shows.run_operation (h : desk.Shows s)
    (hdeposit : s.securityDeposit = some deposit) (hheld : deposit.status = .held) (call : DepositCall)
    (refunded : Option (Option GatewayRefundId)) {s' : Checkout}
    (hs' : s'.securityDeposit = s.depositDesk.runOperation ⟨call, deposit, true⟩ refunded)
    (hbooking : s'.booking = s.booking) :
    ∃ actions, (run step (desk.addOperation (some ⟨call, deposit, false⟩)) actions).Shows s' := by
  have hdesk := h.deposit.trans hdeposit
  obtain ⟨hrow, hstatus, hquiet⟩ := run_claim_finish hdesk hheld h.quiet call refunded
  refine ⟨_, ?_, hstatus.trans (h.status.trans (by rw [hbooking])), hquiet⟩
  rw [hrow, hs', runOperation_eq hdesk hheld, runOperation_eq hdeposit hheld]

theorem releaseDeposit_simulated (h : desk.Shows s)
    (hfits : ∀ deposit ∈ s.securityDeposit, |deposit.deductedAmount| < 10 ^ 10)
    (answer : GatewayRefundAnswer) (mockId : String) :
    ∃ actions, (run step desk actions).Shows (releaseDeposit config s answer mockId).1 := by
  have hbooking : (releaseDeposit config s answer mockId).1.booking = s.booking :=
    (releaseDeposit_frame answer mockId).1
  cases hdeposit : s.securityDeposit with
  | none => exact ⟨[], by simpa only [releaseDeposit, hdeposit, run_nil] using h⟩
  | some deposit =>
    by_cases hheld : deposit.status = .held
    case neg => exact ⟨[], by simpa [releaseDeposit, hdeposit, hheld] using h⟩
    by_cases hleft : deposit.deductedAmount < deposit.amount.paise
    case neg =>
      refine ⟨[], ?_⟩
      have hnone : deposit.amount.paise - deposit.deductedAmount ≤ 0 := by omega
      simpa [releaseDeposit, hdeposit, hheld, hnone] using h
    have hfits := hfits deposit hdeposit
    have hreads : desk.startRelease = desk.addOperation (some ⟨.release, deposit, false⟩) := by
      have hremaining : ¬ DepositOperation.remaining ⟨.release, deposit, false⟩ ≤ 0 := by
        rw [release_remaining hfits, not_le]
        have : (0 : ℚ) < (deposit.amount.paise - deposit.deductedAmount : ℤ) := by
          exact_mod_cast sub_pos.mpr hleft
        positivity
      simp [startRelease, readRelease, h.deposit, hdeposit, hheld, hremaining]
    obtain ⟨actions, hends⟩ := h.run_operation hdeposit hheld .release _
      (releaseDeposit_steps hdeposit hheld hfits hleft) hbooking
    exact ⟨.releaseDeposit :: actions, by rwa [run_cons, step, hreads]⟩

theorem settleDeduction_simulated (h : desk.Shows s) {deductAmount : Decimal}
    (hpos : 0 < deductAmount) (answer : GatewayRefundAnswer) (mockId : String) :
    ∃ actions,
      (run step desk actions).Shows (settleDeduction config s deductAmount answer mockId).1 := by
  have hbooking : (settleDeduction config s deductAmount answer mockId).1.booking = s.booking :=
    (settleDeduction_frame deductAmount answer mockId).1
  cases hdeposit : s.securityDeposit with
  | none => exact ⟨[], by simpa only [settleDeduction, hdeposit, run_nil] using h⟩
  | some deposit =>
    by_cases hheld : deposit.status = .held
    case neg => exact ⟨[], by simpa [settleDeduction, hdeposit, hheld] using h⟩
    have hreads : desk.step (.adjudicateClaim deductAmount deductAmount none) =
        desk.addOperation (some ⟨.settle deductAmount, deposit, false⟩) := by
      simp [step, checkApprovedAmount, not_le.mpr hpos, readSettlement, h.deposit, hdeposit, hheld]
    obtain ⟨actions, hends⟩ := h.run_operation hdeposit hheld (.settle deductAmount) _
      (settleDeduction_steps hdeposit hheld deductAmount) hbooking
    exact ⟨.adjudicateClaim deductAmount deductAmount none :: actions, by rwa [run_cons, hreads]⟩

end Steps

/-- The calls of the deposits service on a checkout, one after the other, leave its deposit as some
run of the desk does. -/
theorem deposit_calls_simulated (config : PaymentConfig) (s : Checkout)
    {actions : List DepositAction}
    (hcalls : Along (depositStep config) DepositServiceCall s actions) :
    ∃ steps, (run DepositDesk.step s.depositDesk steps).Shows (run (depositStep config) s actions) := by
  refine hcalls.simulated (R := fun s desk => DepositDesk.Shows desk s) ?_ ⟨rfl, rfl, rfl⟩
  intro s desk action h hcall
  cases action with
  | payment | gatewaySettles | executeReturn => exact hcall.elim
  | releaseDeposit answer mockId => exact releaseDeposit_simulated h hcall answer mockId
  | settleDeduction deductAmount answer mockId =>
    exact settleDeduction_simulated h hcall answer mockId
  | holdDeposit newId amount razorpayPaymentId =>
    refine ⟨[.holdDeposit newId amount razorpayPaymentId], ?_⟩
    simp only [run_cons, run_nil, DepositDesk.step, depositStep, Checkout.holdDeposit,
      DepositDesk.holdDeposit]
    cases Column.ofDecimal? amount with
    | none => exact h
    | some amount => exact ⟨by rw [h.deposit]; rfl, h.status, h.quiet⟩
  | recordCollateral newId dto isAdminOrVendor =>
    refine ⟨[.recordCollateral newId dto isAdminOrVendor], ?_⟩
    obtain ⟨status, deposit, operations, eligible, completed⟩ := desk
    obtain ⟨rfl, rfl, rfl⟩ := h
    simp only [run_cons, run_nil, DepositDesk.step, depositStep, Checkout.recordCollateral,
      DepositDesk.recordCollateral]
    cases isAdminOrVendor with
    | false => exact ⟨rfl, rfl, rfl⟩
    | true =>
      by_cases hstatus : s.depositDesk.bookingStatus ≠ .confirmed ∧
          s.depositDesk.bookingStatus ≠ .handoverReady
      · have hdesk : s.booking.status ≠ .confirmed ∧ s.booking.status ≠ .handoverReady := hstatus
        rw [if_neg (by decide), if_pos hdesk, if_neg (by decide), if_pos hstatus]
        exact ⟨rfl, rfl, rfl⟩
      · have hdesk : ¬ (s.booking.status ≠ .confirmed ∧ s.booking.status ≠ .handoverReady) := hstatus
        rw [if_neg (by decide), if_neg hdesk, if_neg (by decide), if_neg hstatus]
        cases DepositDesk.validateCollateral dto <;> exact ⟨rfl, rfl, rfl⟩
  | setStatus status => exact ⟨[.setStatus status], h.deposit, rfl, h.quiet⟩

/-- A deposit of 50.00 is released after the trip, held again, and settled for damage of 10.00. -/
theorem released_then_settled_simulated :
    let actions : List DepositAction :=
      [.setStatus .completed, .releaseDeposit (.issued "refund-1" .processed) "",
        .holdDeposit "deposit" 50 (some "pay"),
        .settleDeduction 10 (.issued "refund-2" .pending) ""]
    ∃ steps, (run DepositDesk.step paidCheckout.depositDesk steps).Shows
      (run (depositStep liveConfig) paidCheckout actions) :=
  deposit_calls_simulated liveConfig paidCheckout
    ⟨trivial, by simp [DepositServiceCall, depositStep, paidCheckout], trivial,
      by norm_num [DepositServiceCall], trivial⟩

end CarRental
