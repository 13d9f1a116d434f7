import CarRental.Deposits.Custody

/-!
# Deposits at a checkout

`settleDeduction` beside `releaseDeposit`, and the two upserts, on the rows that the payment
services share.  Here a call runs from its start to its end, with the refund in the middle;
without other calls in between, that is the three steps of `DepositDesk`
(`releaseDeposit_steps`, `settleDeduction_steps`).
-/

namespace CarRental

open Rounding

/-- The deposit's desk, with nothing in flight. -/
def Checkout.depositDesk (s : Checkout) : DepositDesk where
  bookingStatus := s.booking.status
  deposit := s.securityDeposit
  operations := []
  eligible := false
  completed := 0

def Checkout.holdDeposit (s : Checkout) (newId : Id) (amount : Decimal)
    (razorpayPaymentId : Option String) : CheckoutReply SecurityDeposit :=
  let (desk, reply) := s.depositDesk.holdDeposit newId amount razorpayPaymentId
  ({ s with securityDeposit := desk.deposit }, reply)

def Checkout.recordCollateral (s : Checkout) (newId : Id) (dto : RecordCollateralDto)
    (isAdminOrVendor : Bool) : CheckoutReply SecurityDeposit :=
  let (desk, reply) := s.depositDesk.recordCollateral newId dto isAdminOrVendor
  ({ s with securityDeposit := desk.deposit }, reply)

/-! ## Settlements -/

/-- A line that is left out unless its amount is positive. -/
def positiveInput (accountType : LedgerAccountType) (accountEntityId : Option Id)
    (amount : Decimal) : List JournalEntryLineInput :=
  if 0 < amount then [⟨accountType, accountEntityId, some .credit, amount⟩] else []

def depositDeductJournal (booking : Booking) (operation : DepositOperation) :
    RecordJournalInput JournalKey where
  lines :=
    [⟨.customerDepositEscrow, some booking.customerId, some .debit,
      operation.deposit.amount.value⟩] ++
    positiveInput .vendorPayable (some booking.vendorId) operation.deducted ++
    positiveInput .gatewayClearing (some "RAZORPAY") operation.remaining
  idempotencyKey := some (.depositDeduct operation.deposit.id)
  vendorId := some booking.vendorId
  journalId := none

/-- The bookkeeping after a settlement; a refused journal is only logged. -/
def finishSettlement (s : Checkout) (operation : DepositOperation)
    (razorpayRefundId : Option GatewayRefundId) : Checkout :=
  let s := { s with securityDeposit := s.securityDeposit.map (operation.finishRow razorpayRefundId) }
  match recordJournal s.ledger (depositDeductJournal s.booking operation) with
  | .ok (ledger, _) => { s with ledger }
  | .error _ => s

/-- The refund of what a settlement leaves, in whole paise. -/
def remainderRequest (operation : DepositOperation) : RefundRequest :=
  ⟨operation.refundedPaise, none, none⟩

def settleDeduction (config : PaymentConfig) (s : Checkout) (deductAmount : Decimal)
    (answer : GatewayRefundAnswer) (mockId : String) : CheckoutReply (Option SecurityDeposit) :=
  match s.securityDeposit with
  | none => (s, .ok none)
  | some deposit =>
    if deposit.status ≠ .held then (s, .ok (some deposit))
    else
      let operation : DepositOperation := ⟨.settle deductAmount, deposit, true⟩
      let claimed := operation.claimRow deposit
      let s₁ := setDeposit s claimed
      if 0 < operation.remaining then
        match refund config s₁ (remainderRequest operation) answer mockId with
        | (s₂, .ok reply) =>
          let s₃ := finishSettlement s₂ operation reply.refundId
          (s₃, .ok s₃.securityDeposit)
        | (s₂, .error _) =>
          (setDeposit s₂ (operation.revertRow claimed),
            .error (.badRequest "Payment gateway partial refund failed."))
      else
        let s₂ := finishSettlement s₁ operation none
        (s₂, .ok s₂.securityDeposit)

/-! ## The calls as steps of the desk -/

section Steps

variable {config : PaymentConfig} {s : Checkout} {deposit : SecurityDeposit}
  {answer : GatewayRefundAnswer} {mockId : String}

/-- What an operation of the desk is told of a refund. -/
def refundOutcome (result : CheckoutReply RefundReply) : Option (Option GatewayRefundId) :=
  match result.2 with
  | .ok reply => some reply.refundId
  | .error _ => none

/-- The row after claiming it and finishing, with the given answer of the refund. -/
def DepositDesk.runOperation (desk : DepositDesk) (operation : DepositOperation)
    (refunded : Option (Option GatewayRefundId)) : Option SecurityDeposit :=
  ((desk.claimDeposit operation).finishOperation operation refunded).deposit

theorem runOperation_eq {desk : DepositDesk} {operation : DepositOperation}
    (hdeposit : desk.deposit = some deposit) (hheld : deposit.status = .held)
    (refunded : Option (Option GatewayRefundId)) :
    desk.runOperation operation refunded =
      if operation.asksRefund then
        match refunded with
        | none => some (operation.revertRow (operation.claimRow deposit))
        | some refundId => some (operation.finishRow refundId (operation.claimRow deposit))
      else
        some (operation.finishRow
          (match operation.call with
            | .release => some .collateralReleased
            | .settle _ => none) (operation.claimRow deposit)) := by
  simp only [DepositDesk.runOperation, DepositDesk.claimDeposit, hdeposit, hheld, if_true,
    DepositDesk.finishOperation]
  split
  · cases refunded <;> rfl
  · rfl

theorem finishSettlement_securityDeposit (s : Checkout) (operation : DepositOperation)
    (refundId : Option GatewayRefundId) :
    (finishSettlement s operation refundId).securityDeposit =
      s.securityDeposit.map (operation.finishRow refundId) := by
  unfold finishSettlement
  dsimp only
  split <;> rfl

theorem settleRelease_securityDeposit (s : Checkout) (deposit : SecurityDeposit) (remaining : ℤ)
    (refundId : Option GatewayRefundId) :
    (settleRelease s deposit remaining refundId).securityDeposit =
      some { deposit with
        refundedAmount := remaining
        razorpayRefundId := refundId <|> deposit.razorpayRefundId } := by
  unfold settleRelease
  dsimp only
  split <;> rfl

theorem settleDeduction_steps (hdeposit : s.securityDeposit = some deposit)
    (hheld : deposit.status = .held) (deductAmount : Decimal) :
    (settleDeduction config s deductAmount answer mockId).1.securityDeposit =
      s.depositDesk.runOperation ⟨.settle deductAmount, deposit, true⟩
        (refundOutcome (refund config
          (setDeposit s
            (DepositOperation.claimRow ⟨.settle deductAmount, deposit, true⟩ deposit))
          (remainderRequest ⟨.settle deductAmount, deposit, true⟩) answer mockId)) := by
  set operation : DepositOperation := ⟨.settle deductAmount, deposit, true⟩ with hoperation
  have hasks : operation.asksRefund = decide (0 < operation.remaining) := rfl
  rw [runOperation_eq hdeposit hheld, hasks]
  simp only [settleDeduction, hdeposit, hheld, ne_eq, not_true_eq_false, if_false,
    decide_eq_true_eq, ← hoperation]
  split
  · have hframe := (refund_frame config (setDeposit s (operation.claimRow deposit))
      (remainderRequest operation) answer mockId).2
    cases hrefund : refund config (setDeposit s (operation.claimRow deposit))
        (remainderRequest operation) answer mockId with
    | mk s₂ reply =>
      rw [hrefund] at hframe
      cases reply with
      | error e => rfl
      | ok reply =>
        dsimp only [refundOutcome]
        rw [finishSettlement_securityDeposit, hframe]
        rfl
  · rw [finishSettlement_securityDeposit]
    rfl

theorem release_remaining (hfits : |deposit.deductedAmount| < 10 ^ 10) (claimed : Bool) :
    DepositOperation.remaining ⟨.release, deposit, claimed⟩ =
      ((deposit.amount.paise - deposit.deductedAmount : ℤ) : ℚ) / 100 := by
  have hgrid : OnGrid 2 (((deposit.amount.paise - deposit.deductedAmount : ℤ) : ℚ) / 100) :=
    ⟨deposit.amount.paise - deposit.deductedAmount, by norm_num⟩
  have hamount := deposit.amount.inRange
  have hdiff : deposit.amount.value - (deposit.deductedAmount : ℚ) / 100 =
      ((deposit.amount.paise - deposit.deductedAmount : ℤ) : ℚ) / 100 := by
    rw [Column.value]
    push_cast
    ring
  rw [DepositOperation.remaining, DepositOperation.deducted, Decimal.sub, hdiff,
    toDigits_of_onGrid hgrid]
  rw [abs_div, abs_of_pos (by norm_num : (0 : ℚ) < 100), div_mul_eq_mul_div,
    div_lt_iff₀ (by norm_num)]
  have hsmall : |deposit.amount.paise - deposit.deductedAmount| < 2 * 10 ^ 10 := by
    rw [abs_lt] at hamount hfits ⊢
    omega
  have hcast : |((deposit.amount.paise - deposit.deductedAmount : ℤ) : ℚ)| < 2 * 10 ^ 10 := by
    exact_mod_cast hsmall
  norm_num [Decimal.precision] at hcast ⊢
  linarith

theorem releaseDeposit_steps (hdeposit : s.securityDeposit = some deposit)
    (hheld : deposit.status = .held) (hfits : |deposit.deductedAmount| < 10 ^ 10)
    (hleft : deposit.deductedAmount < deposit.amount.paise) :
    (releaseDeposit config s answer mockId).1.securityDeposit =
      s.depositDesk.runOperation ⟨.release, deposit, true⟩
        (refundOutcome (refund config
          (setDeposit s (DepositOperation.claimRow ⟨.release, deposit, true⟩ deposit))
          ⟨deposit.amount.paise - deposit.deductedAmount, none, none⟩ answer mockId)) := by
  set operation : DepositOperation := ⟨.release, deposit, true⟩ with hoperation
  have hpaise : operation.refundedPaise = deposit.amount.paise - deposit.deductedAmount := by
    rw [DepositOperation.refundedPaise, hoperation, release_remaining hfits,
      div_mul_cancel₀ _ (by norm_num), roundAway_intCast]
  have hasks : operation.asksRefund = !deposit.isCollateral := rfl
  have hclaim : operation.claimRow deposit = { deposit with
      status := if 0 < deposit.deductedAmount then .partiallyRefunded else .refunded } := rfl
  have hfinish : ∀ refundId, operation.finishRow refundId (operation.claimRow deposit) =
      { operation.claimRow deposit with
        refundedAmount := deposit.amount.paise - deposit.deductedAmount
        razorpayRefundId := refundId <|> deposit.razorpayRefundId } := by
    intro refundId
    rw [DepositOperation.finishRow, hpaise]
  rw [runOperation_eq hdeposit hheld, hasks]
  simp only [releaseDeposit, hdeposit, hheld, ne_eq, not_true_eq_false, if_false,
    if_neg (show ¬ deposit.amount.paise - deposit.deductedAmount ≤ 0 by omega), hfinish]
  cases hcollateral : deposit.isCollateral with
  | true =>
    simp only [if_true, Bool.not_true, Bool.false_eq_true, if_false]
    rw [settleRelease_securityDeposit]
    rfl
  | false =>
    simp only [Bool.false_eq_true, if_false, Bool.not_false, if_true, hclaim]
    cases hrefund : refund config (setDeposit s { deposit with
        status := if 0 < deposit.deductedAmount then .partiallyRefunded else .refunded })
        ⟨deposit.amount.paise - deposit.deductedAmount, none, none⟩ answer mockId with
    | mk s₂ reply =>
      cases reply with
      | error e =>
        show some deposit = some { deposit with status := .held }
        rw [← hheld]
      | ok reply =>
        dsimp only [refundOutcome]
        rw [settleRelease_securityDeposit]

end Steps

end CarRental
