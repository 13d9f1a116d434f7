import CarRental.Bookings.VehicleReturn
import CarRental.Deposits.Settlement
import CarRental.Payments.RefundBound
import CarRental.Payments.StatusLaw

/-!
# A deposit that is marked refunded has been refunded

When a release, a settlement or a return succeeds and marks the deposit refunded by some
amount, the payment service should have issued a refund of just that amount in the call.

`executeReturn` and the release of collateral never ask for one, and `refund` returns
without an error where it has done nothing: for a payment that is not `PAID`, for a key
that it has refunded under before, for a payment that the gateway says is refunded
already, and for a wallet that has been credited before.  `refund_issues_iff` says exactly
when a refund that returns has issued what it was asked for, and `refunds_truthful_iff`
what follows for a whole history of a deposit and its payment.
-/

namespace CarRental

open Runs

/-! ## What has been issued -/

/-- The refunds that have been opened at the gateway, whatever has become of them, and the
refund credits in the wallet. -/
def issued (s : Checkout) : ℤ := (s.gatewayRefunds.map GatewayRefund.paise).sum + walletSentBack s

def GatewayRefundAnswer.isIssued : GatewayRefundAnswer → Bool
  | .issued _ _ => true
  | _ => false

/-- The wallet's part of a refund does not stop the call. -/
def walletTakes (config : PaymentConfig) (s : Checkout) (payment : Payment) (walletPaise : ℤ) :
    Bool :=
  walletPaise ≤ 0 || (s.wallet.creditWallet config walletPaise .bookingRefund .refundCredit
    "BOOKING" (some s.booking.id) (walletRefundKey s payment)).isOk

/-- The two parts are both new: the gateway opens a refund for its part, and the wallet has
not been credited for this payment before. -/
def IssuesBothParts (config : PaymentConfig) (s : Checkout) (payment : Payment) (paise : ℤ)
    (answer : GatewayRefundAnswer) : Prop :=
  0 ≤ gatewayRefundPart s payment paise ∧
    (0 < gatewayRefundPart s payment paise → config.useMock = true ∨ answer.isIssued = true) ∧
    (0 < walletRefundPart s payment paise →
      s.wallet.findEntry (walletRefundKey s payment) = none)

/-- The payment is `PAID`, and unless the refund is refused it is under a new key and new in
both parts. -/
def RefundIssues (config : PaymentConfig) (s : Checkout) (request : RefundRequest)
    (answer : GatewayRefundAnswer) : Prop :=
  ∃ payment ∈ s.payment, payment.status = .paid ∧
    (request.refundAmountInPaise ≤ payment.amount.paise →
      findRefund s (request.idempotencyKey.getD (defaultRefundKey s payment)) = none ∧
      (gatewayTakes config payment (gatewayRefundPart s payment request.refundAmountInPaise)
          answer = true →
        walletTakes config s payment (walletRefundPart s payment request.refundAmountInPaise) =
            true →
          IssuesBothParts config s payment request.refundAmountInPaise answer))

section Refund

variable {config : PaymentConfig} {s s' : Checkout} {payment : Payment} {request : RefundRequest}
  {answer : GatewayRefundAnswer} {mockId : String}

theorem AddsRefund.issued {paise : ℤ} {status : RefundStatus}
    (h : AddsRefund s s' paise status) :
    (s'.gatewayRefunds.map GatewayRefund.paise).sum =
      (s.gatewayRefunds.map GatewayRefund.paise).sum + paise := by
  obtain ⟨refund, rfl, -, rfl⟩ := h
  rw [List.map_append, List.sum_append, List.map_singleton, List.sum_singleton]

theorem gatewayRefund_issued {gatewayPaise : ℤ} {refundId : GatewayRefundId} {status : RefundStatus}
    (h : gatewayRefund config s payment gatewayPaise answer mockId = .ok (s', refundId, status)) :
    (s'.gatewayRefunds.map GatewayRefund.paise).sum =
      (s.gatewayRefunds.map GatewayRefund.paise).sum +
        if 0 < gatewayPaise ∧ (config.useMock = true ∨ answer.isIssued = true) then gatewayPaise
        else 0 := by
  rcases gatewayRefund_cases h with ⟨hnone, -, -, rfl⟩ | ⟨hpos, hmock, -, -, hadded⟩ |
    ⟨hpos, hlive, id, state, -, -, ⟨rfl, rfl⟩ | ⟨rfl, hadded⟩⟩
  · simp [hnone]
  · simp [hadded.issued, hpos, hmock]
  · simp [hlive, GatewayRefundAnswer.isIssued]
  · simp [hadded.issued, hpos, GatewayRefundAnswer.isIssued]

theorem walletRefund_isOk (walletPaise : ℤ) :
    (walletRefund config s payment walletPaise).isOk =
      walletTakes config s payment walletPaise := by
  unfold walletRefund walletTakes
  by_cases hpaise : 0 < walletPaise
  · rw [if_pos hpaise, decide_eq_false (not_le.mpr hpaise), Bool.false_or]
    cases s.wallet.creditWallet config walletPaise .bookingRefund .refundCredit "BOOKING"
      (some s.booking.id) (walletRefundKey s payment) <;> rfl
  · rw [if_neg hpaise, decide_eq_true (not_lt.mp hpaise)]
    rfl

theorem walletRefund_isOk_of_gateway (gatewayRefunds : List GatewayRefund) (walletPaise : ℤ) :
    (walletRefund config { s with gatewayRefunds } payment walletPaise).isOk =
      walletTakes config s payment walletPaise :=
  walletRefund_isOk walletPaise

theorem newParts_sum_iff {part whole : ℤ} (hpos : 0 < whole) (hle : part ≤ whole)
    (firstNew secondNew : Prop) [Decidable firstNew] [Decidable secondNew] :
    (if 0 < part ∧ firstNew then part else 0) +
        (if 0 < whole - part ∧ secondNew then whole - part else 0) = whole ↔
      0 ≤ part ∧ (0 < part → firstNew) ∧ (0 < whole - part → secondNew) := by
  by_cases hfirst : firstNew <;> by_cases hsecond : secondNew <;>
    simp only [hfirst, hsecond, and_true, and_false, if_false, implies_true, imp_false, true_and]
  · split <;> split <;> constructor <;> intro <;> omega
  · split <;> constructor <;> intro <;> omega
  · split <;> constructor <;> intro <;> omega
  · constructor <;> intro <;> omega

theorem walletSent_of_takes {walletPaise : ℤ}
    (htakes : walletTakes config s payment walletPaise = true) :
    walletSent config s payment walletPaise =
      if 0 < walletPaise ∧ s.wallet.findEntry (walletRefundKey s payment) = none then walletPaise
      else 0 := by
  unfold walletSent
  by_cases hpos : 0 < walletPaise
  · have hok : (s.wallet.creditWallet config walletPaise .bookingRefund
        .refundCredit "BOOKING" (some s.booking.id) (walletRefundKey s payment)).isOk = true := by
      simpa [walletTakes, not_le.mpr hpos] using htakes
    simp [hpos, hok]
  · simp [hpos]

theorem issuesBothParts_iff (answer : GatewayRefundAnswer) {paise : ℤ} (hpos : 0 < paise)
    (htakes : walletTakes config s payment (walletRefundPart s payment paise) = true) :
    (if 0 < gatewayRefundPart s payment paise ∧ (config.useMock = true ∨ answer.isIssued = true) then
        gatewayRefundPart s payment paise else 0) +
      walletSent config s payment (walletRefundPart s payment paise) = paise ↔
        IssuesBothParts config s payment paise answer := by
  have hle : gatewayRefundPart s payment paise ≤ paise := min_le_left _ _
  rw [walletSent_of_takes htakes]
  exact newParts_sum_iff hpos hle _ _

theorem refund_issues_of_passes (hpayment : s.payment = some payment)
    (h : RefundPasses s payment request) :
    ((refund config s request answer mockId).2.isOk = true →
        issued (refund config s request answer mockId).1 =
          issued s + request.refundAmountInPaise) ↔
      (gatewayTakes config payment (gatewayRefundPart s payment request.refundAmountInPaise)
          answer = true →
        walletTakes config s payment (walletRefundPart s payment request.refundAmountInPaise) =
            true →
          IssuesBothParts config s payment request.refundAmountInPaise answer) := by
  rw [refund_eq_of_passes hpayment h, ← gatewayRefund_isOk config s payment _ answer mockId]
  cases hgateway : gatewayRefund config s payment
      (gatewayRefundPart s payment request.refundAmountInPaise) answer mockId with
  | error e => simp [Except.isOk, Except.toBool]
  | ok result =>
    obtain ⟨s₁, refundId, status⟩ := result
    have hissued := gatewayRefund_issued hgateway
    obtain ⟨gatewayRefunds, rfl⟩ := gatewayRefund_eq_ok hgateway
    rw [← walletRefund_isOk_of_gateway gatewayRefunds]
    cases hwallet : walletRefund config { s with gatewayRefunds } payment
        (walletRefundPart s payment request.refundAmountInPaise) with
    | error e => simp [Except.isOk, Except.toBool, hwallet]
    | ok s₂ =>
      have hcredited := walletRefund_sentBack hwallet
      have htakes : walletTakes config s payment
          (walletRefundPart s payment request.refundAmountInPaise) = true := by
        rw [← walletRefund_isOk_of_gateway gatewayRefunds, hwallet]
        rfl
      obtain ⟨wallet, rfl⟩ := walletRefund_eq_ok hwallet
      have hboth := issuesBothParts_iff answer h.2.1 htakes
      have hcredit : walletSent config { s with gatewayRefunds } payment
          (walletRefundPart s payment request.refundAmountInPaise) =
            walletSent config s payment
              (walletRefundPart s payment request.refundAmountInPaise) := rfl
      rw [hcredit] at hcredited
      simp only [hwallet, Except.isOk, Except.toBool, forall_true_left]
      rw [← hboth]
      have hafter : issued (recordRefund { s with gatewayRefunds, wallet } payment
          request.refundAmountInPaise
          (request.idempotencyKey.getD (defaultRefundKey s payment)) request.requestedByUserId
          refundId status) =
          (gatewayRefunds.map GatewayRefund.paise).sum +
            walletSentBack { s with gatewayRefunds, wallet } := rfl
      have hbefore : walletSentBack { s with gatewayRefunds } = walletSentBack s := rfl
      rw [hafter, hissued, hcredited, hbefore, issued]
      constructor <;> intro hsum <;> linarith

theorem refund_issued_of_not_passes (h : ∀ payment ∈ s.payment, ¬ RefundPasses s payment request) :
    issued (refund config s request answer mockId).1 = issued s := by
  cases hpayment : s.payment with
  | none => simp [refund, hpayment]
  | some payment =>
    rcases refund_of_not_passes hpayment (h payment hpayment) answer mockId with hsame | hwritten
    · rw [hsame]
    · rw [hwritten]
      rfl

theorem refund_issues_iff (config : PaymentConfig) (s : Checkout) (answer : GatewayRefundAnswer)
    (mockId : String) (hpos : 0 < request.refundAmountInPaise) :
    ((refund config s request answer mockId).2.isOk = true →
        issued (refund config s request answer mockId).1 =
          issued s + request.refundAmountInPaise) ↔
      RefundIssues config s request answer := by
  cases hpayment : s.payment with
  | none =>
    refine iff_of_false (fun h => ?_) fun ⟨_, hmem, _⟩ => by simp [hpayment] at hmem
    have hsame := h (by simp [refund, hpayment, Except.isOk, Except.toBool])
    simp only [refund, hpayment] at hsame
    omega
  | some payment =>
    have hissues : RefundIssues config s request answer ↔ payment.status = .paid ∧
        (request.refundAmountInPaise ≤ payment.amount.paise →
          findRefund s (request.idempotencyKey.getD (defaultRefundKey s payment)) = none ∧
          (gatewayTakes config payment (gatewayRefundPart s payment request.refundAmountInPaise)
              answer = true →
            walletTakes config s payment
                (walletRefundPart s payment request.refundAmountInPaise) = true →
              IssuesBothParts config s payment request.refundAmountInPaise answer)) := by
      simp [RefundIssues, hpayment]
    rw [hissues]
    by_cases hpaid : payment.status = .paid
    case neg =>
      refine iff_of_false (fun h => ?_) fun h => hpaid h.1
      have hsame := h (by simp [refund, hpayment, hpaid, Except.isOk, Except.toBool])
      simp only [refund, hpayment, ne_eq, hpaid, not_false_eq_true, if_true] at hsame
      omega
    by_cases hfits : request.refundAmountInPaise ≤ payment.amount.paise
    case neg =>
      refine iff_of_true (fun h => ?_) ⟨hpaid, fun h => absurd h hfits⟩
      simp [refund, hpayment, hpaid, not_le.mpr hpos, not_le.mp hfits, Except.isOk,
        Except.toBool] at h
    cases hknown : findRefund s
        (request.idempotencyKey.getD (defaultRefundKey s payment)) with
    | some existing =>
      refine iff_of_false (fun h => ?_) fun h => by simpa using (h.2 hfits).1
      have hreply : refund config s request answer mockId =
          (s, .ok ⟨existing.gatewayRefundId,
            existing.processedAmount.getD existing.requestedAmount, existing.status, true⟩) := by
        simp [refund, hpayment, hpaid, not_le.mpr hpos, not_lt.mpr hfits, hknown]
      rw [hreply] at h
      have hsame : issued s = issued s + request.refundAmountInPaise := h rfl
      omega
    | none =>
      rw [refund_issues_of_passes hpayment ⟨hpaid, hpos, hfits, hknown⟩]
      simp [hpaid, hfits]

end Refund

/-! ## The calls -/

/-- The amount that a call marks a held deposit refunded by. -/
def marksRefunded (s s' : Checkout) : Option ℤ :=
  match s.securityDeposit, s'.securityDeposit with
  | some deposit, some deposit' =>
    if deposit.status = .held ∧ deposit'.status ∈ [.refunded, .partiallyRefunded] then
      some deposit'.refundedAmount
    else none
  | _, _ => none

/-- A call that succeeds and marks the deposit refunded has issued a refund of the amount. -/
def TellsTruth {R : Type} (s : Checkout) (reply : CheckoutReply R) : Prop :=
  reply.2.isOk = true → ∀ r ∈ marksRefunded s reply.1, issued reply.1 = issued s + r

section Calls

variable {config : PaymentConfig} {s : Checkout} {deposit : SecurityDeposit}
  {answer : GatewayRefundAnswer} {mockId : String}

theorem marksRefunded_self (s : Checkout) : marksRefunded s s = none := by
  unfold marksRefunded
  cases hdeposit : s.securityDeposit with
  | none => rfl
  | some deposit =>
    refine if_neg fun h => ?_
    rw [h.1] at h
    exact absurd h.2 (by decide)

theorem tellsTruth_self {R : Type} (s : Checkout) (reply : Except HttpError R) :
    TellsTruth s (s, reply) := by
  intro _ r hr
  rw [marksRefunded_self] at hr
  cases hr

theorem marksRefunded_eq {s s' : Checkout} {deposit deposit' : SecurityDeposit}
    (hdeposit : s.securityDeposit = some deposit) (hheld : deposit.status = .held)
    (hdeposit' : s'.securityDeposit = some deposit')
    (hmarked : deposit'.status ∈ [SecurityDepositStatus.refunded, .partiallyRefunded]) :
    marksRefunded s s' = some deposit'.refundedAmount := by
  simp only [marksRefunded, hdeposit, hdeposit', hheld, true_and]
  exact if_pos hmarked

theorem settleRelease_issued (s : Checkout) (deposit : SecurityDeposit) (remaining : ℤ)
    (razorpayRefundId : Option GatewayRefundId) :
    issued (settleRelease s deposit remaining razorpayRefundId) = issued s := by
  unfold settleRelease
  dsimp only
  split <;> rfl

theorem finishSettlement_issued (s : Checkout) (operation : DepositOperation)
    (razorpayRefundId : Option GatewayRefundId) :
    issued (finishSettlement s operation razorpayRefundId) = issued s := by
  unfold finishSettlement
  dsimp only
  split <;> rfl

/-- What the release of a held deposit asks `refund` for. -/
def ReleaseInTruth (config : PaymentConfig) (s : Checkout) (answer : GatewayRefundAnswer) : Prop :=
  ∀ deposit ∈ s.securityDeposit, deposit.status = .held →
    deposit.deductedAmount < deposit.amount.paise →
      deposit.isCollateral = false ∧
        RefundIssues config s ⟨deposit.amount.paise - deposit.deductedAmount, none, none⟩ answer

theorem releaseDeposit_tellsTruth_iff :
    TellsTruth s (releaseDeposit config s answer mockId) ↔ ReleaseInTruth config s answer := by
  unfold releaseDeposit ReleaseInTruth
  cases hdeposit : s.securityDeposit with
  | none => exact iff_of_true (tellsTruth_self s _) fun _ hmem => by cases hmem
  | some deposit =>
    simp only [Option.mem_def, Option.some.injEq, forall_eq']
    by_cases hheld : deposit.status = .held
    case neg =>
      rw [if_pos hheld]
      exact iff_of_true (tellsTruth_self s _) fun h => absurd h hheld
    rw [if_neg (not_not.mpr hheld)]
    by_cases hleft : deposit.deductedAmount < deposit.amount.paise
    case neg =>
      rw [if_pos (by omega)]
      exact iff_of_true (tellsTruth_self s _) fun _ h => absurd h hleft
    rw [if_neg (by omega), forall_prop_of_true hheld, forall_prop_of_true hleft]
    set released : SecurityDeposit := { deposit with
      status := if 0 < deposit.deductedAmount then .partiallyRefunded else .refunded }
    have hmarked : released.status ∈
        [SecurityDepositStatus.refunded, .partiallyRefunded] := by
      dsimp only [released]
      split <;> decide
    have hmarks : ∀ s₂ refundId, marksRefunded s (settleRelease s₂ released
        (deposit.amount.paise - deposit.deductedAmount) refundId) =
          some (deposit.amount.paise - deposit.deductedAmount) := fun s₂ refundId =>
      marksRefunded_eq hdeposit hheld (settleRelease_securityDeposit ..) hmarked
    cases hcollateral : deposit.isCollateral with
    | true =>
      refine iff_of_false (fun h => ?_) fun h => absurd h.1 (by decide)
      have hissued := h rfl _ (hmarks _ _)
      rw [if_pos rfl, settleRelease_issued] at hissued
      have hsame : issued (setDeposit s released) = issued s := rfl
      omega
    | false =>
      rw [if_neg (by decide), and_iff_right rfl]
      have hpos : 0 < RefundRequest.refundAmountInPaise
          ⟨deposit.amount.paise - deposit.deductedAmount, none, none⟩ := by
        dsimp only
        omega
      have hissues := refund_issues_iff config (setDeposit s released) answer mockId hpos
      have hsame : RefundIssues config (setDeposit s released)
          ⟨deposit.amount.paise - deposit.deductedAmount, none, none⟩ answer ↔
        RefundIssues config s ⟨deposit.amount.paise - deposit.deductedAmount, none, none⟩
          answer := Iff.rfl
      rw [← hsame, ← hissues]
      cases hrefund : refund config (setDeposit s released)
          ⟨deposit.amount.paise - deposit.deductedAmount, none, none⟩ answer mockId with
      | mk s₂ reply =>
        cases reply with
        | error e => exact iff_of_true (fun h => by cases h) fun h => by cases h
        | ok reply =>
          simp only [TellsTruth, hmarks, settleRelease_issued, Option.mem_def,
            Option.some.injEq, forall_eq']
          rfl

/-- What a settlement asks `refund` for, if it comes to a whole paisa. -/
def SettlementInTruth (config : PaymentConfig) (s : Checkout) (deductAmount : Decimal)
    (answer : GatewayRefundAnswer) : Prop :=
  ∀ deposit ∈ s.securityDeposit, deposit.status = .held →
    let operation : DepositOperation := ⟨.settle deductAmount, deposit, true⟩
    0 < operation.refundedPaise → RefundIssues config s (remainderRequest operation) answer

theorem refundedPaise_nonneg {operation : DepositOperation} (h : 0 ≤ operation.remaining) :
    0 ≤ operation.refundedPaise :=
  Rounding.roundAway_nonneg (by linarith)

theorem refundedPaise_nonpos {operation : DepositOperation} (h : operation.remaining ≤ 0) :
    operation.refundedPaise ≤ 0 :=
  Rounding.roundAway_nonpos (by linarith)

theorem settleDeduction_tellsTruth_iff (deductAmount : Decimal) :
    TellsTruth s (settleDeduction config s deductAmount answer mockId) ↔
      SettlementInTruth config s deductAmount answer := by
  unfold settleDeduction SettlementInTruth
  cases hdeposit : s.securityDeposit with
  | none => exact iff_of_true (tellsTruth_self s _) fun _ hmem => by cases hmem
  | some deposit =>
    simp only [Option.mem_def, Option.some.injEq, forall_eq']
    by_cases hheld : deposit.status = .held
    case neg =>
      rw [if_pos hheld]
      exact iff_of_true (tellsTruth_self s _) fun h => absurd h hheld
    rw [if_neg (not_not.mpr hheld), forall_prop_of_true hheld]
    set operation : DepositOperation := ⟨.settle deductAmount, deposit, true⟩ with hoperation
    have hstatus : (operation.claimRow deposit).status = operation.targetStatus := rfl
    by_cases hrest : 0 < operation.remaining
    case neg =>
      -- a forfeited deposit is not marked refunded
      rw [if_neg hrest]
      refine iff_of_true (fun _ r hr => ?_) fun h =>
        absurd h (not_lt.mpr (refundedPaise_nonpos (not_lt.mp hrest)))
      have htarget : operation.targetStatus = .forfeited := if_neg hrest
      simp only [marksRefunded, hdeposit, finishSettlement_securityDeposit, setDeposit,
        Option.map_some, DepositOperation.finishRow, hstatus, htarget] at hr
      rw [if_neg fun h => absurd h.2 (by decide)] at hr
      cases hr
    rw [if_pos hrest]
    have htarget : operation.targetStatus = .partiallyRefunded := if_pos hrest
    have hframe := (refund_frame config (setDeposit s (operation.claimRow deposit))
      (remainderRequest operation) answer mockId).2
    have hsame : RefundIssues config (setDeposit s (operation.claimRow deposit))
        (remainderRequest operation) answer ↔
      RefundIssues config s (remainderRequest operation) answer := Iff.rfl
    have hissues : (0 < operation.refundedPaise →
        RefundIssues config s (remainderRequest operation) answer) ↔
      ((refund config (setDeposit s (operation.claimRow deposit)) (remainderRequest operation)
          answer mockId).2.isOk = true →
        issued (refund config (setDeposit s (operation.claimRow deposit))
          (remainderRequest operation) answer mockId).1 = issued s + operation.refundedPaise) := by
      by_cases hpos : 0 < operation.refundedPaise
      · rw [forall_prop_of_true hpos, ← hsame]
        exact (refund_issues_iff config (setDeposit s (operation.claimRow deposit)) answer mockId
          hpos).symm
      · -- less than half a paisa is left, and nothing is asked for
        have hzero : operation.refundedPaise = 0 :=
          le_antisymm (not_lt.mp hpos) (refundedPaise_nonneg hrest.le)
        refine iff_of_true (fun h => absurd h hpos) fun _ => ?_
        rw [refund_issued_of_not_passes fun payment _ h => hpos h.2.1, hzero, add_zero]
        rfl
    rw [hissues]
    cases hrefund : refund config (setDeposit s (operation.claimRow deposit))
        (remainderRequest operation) answer mockId with
    | mk s₂ reply =>
      rw [hrefund] at hframe
      cases reply with
      | error e => exact iff_of_true (fun h => by cases h) fun h => by cases h
      | ok reply =>
        have hrow : (finishSettlement s₂ operation reply.refundId).securityDeposit =
            some (operation.finishRow reply.refundId (operation.claimRow deposit)) := by
          rw [finishSettlement_securityDeposit, hframe]
          rfl
        have hmarked : (operation.finishRow reply.refundId
            (operation.claimRow deposit)).status ∈
              [SecurityDepositStatus.refunded, .partiallyRefunded] := by
          show operation.targetStatus ∈ _
          rw [htarget]
          decide
        simp only [TellsTruth, marksRefunded_eq hdeposit hheld hrow hmarked,
          finishSettlement_issued, Option.mem_def, Option.some.injEq, forall_eq']
        rfl

/-! ## Returns -/

/-- The return passes its checks and completes. -/
def ReturnGoesThrough (s : Checkout) (trip : RentedTrip) (request : ReturnRequest)
    (otpFound completes : Bool) : Prop :=
  s.booking.status ∈ [.ongoing, .returnPending] ∧
    ((request.skipOtpForAdmin = true ∧ request.isAdmin = true) ∨
      (request.handoverOtpCode.all fun code => code = "") = false ∧ otpFound = true) ∧
    trip.startOdo ≤ request.odometerReading ∧ completes = true

/-- A return that goes through finds nothing to pay back: the charges use the deposit up, or
there is no amount. -/
def ReturnInTruth (s : Checkout) (trip : RentedTrip) (request : ReturnRequest)
    (otpFound completes : Bool) : Prop :=
  ReturnGoesThrough s trip request otpFound completes →
    ∀ deposit ∈ s.securityDeposit, deposit.status = .held →
      if trip.totalAdditionalCharges request ≤ 0 then deposit.amount.paise = 0
      else deposit.amount.paise ≤ 100 * trip.totalAdditionalCharges request

theorem settleReturnDeposit_issued (s : Checkout) (totalAdditionalCharges : ℤ) :
    issued (settleReturnDeposit s totalAdditionalCharges).1 = issued s := by
  unfold settleReturnDeposit
  split
  · rfl
  · split <;> rfl

theorem executeReturn_cases (s : Checkout) (trip : RentedTrip) (request : ReturnRequest)
    (otpFound completes : Bool) :
    ¬ ReturnGoesThrough s trip request otpFound completes ∧
        (executeReturn s trip request otpFound completes).2.isOk = false ∨
      ReturnGoesThrough s trip request otpFound completes ∧
        (executeReturn s trip request otpFound completes).2.isOk = true ∧
        issued (executeReturn s trip request otpFound completes).1 = issued s ∧
        (executeReturn s trip request otpFound completes).1.securityDeposit =
          (settleReturnDeposit s (trip.totalAdditionalCharges request)).1.securityDeposit := by
  unfold executeReturn ReturnGoesThrough
  dsimp only
  split
  next hstatus =>
    refine .inl ⟨fun h => ?_, rfl⟩
    have hmem := h.1
    simp only [List.mem_cons, List.not_mem_nil, or_false] at hmem
    exact hmem.elim hstatus.1 hstatus.2
  next hstatus =>
    split
    next hmissing => exact .inl ⟨fun h => by simp_all, rfl⟩
    next hgiven =>
      split
      next hunknown => exact .inl ⟨fun h => by simp_all, rfl⟩
      next hfound =>
        split
        next hback => exact .inl ⟨fun h => absurd hback (not_lt.mpr h.2.2.1), rfl⟩
        next hforth =>
          cases completes with
          | false => exact .inl ⟨fun h => absurd h.2.2.2 (by decide), rfl⟩
          | true =>
            have hopen : s.booking.status ∈ [BookingStatus.ongoing, .returnPending] := by
              rw [not_and_or, not_not, not_not] at hstatus
              simpa using hstatus
            have hotp : (request.skipOtpForAdmin = true ∧ request.isAdmin = true) ∨
                (request.handoverOtpCode.all fun code => code = "") = false ∧
                  otpFound = true := by
              cases hskip : request.skipOtpForAdmin <;> cases hadmin : request.isAdmin <;>
                simp_all
            exact .inr ⟨⟨hopen, hotp, not_lt.mp hforth, rfl⟩, rfl,
              settleReturnDeposit_issued s _, rfl⟩

theorem settleAtReturn_cases (deposit : SecurityDeposit) (charges : ℤ) :
    (settleAtReturn deposit charges).1.status ∈
          [SecurityDepositStatus.refunded, .partiallyRefunded] ∧
        (settleAtReturn deposit charges).1.refundedAmount =
          deposit.amount.paise - 100 * max charges 0 ∧
        (charges ≤ 0 ∨ 100 * charges < deposit.amount.paise) ∨
      (settleAtReturn deposit charges).1.status = .forfeited ∧
        0 < charges ∧ deposit.amount.paise ≤ 100 * charges := by
  unfold settleAtReturn
  dsimp only
  split
  next hnone =>
    refine .inl ⟨by simp, ?_, .inl hnone⟩
    rw [max_eq_right hnone]
    ring
  next hsome =>
    have hpos := not_le.mp hsome
    split
    next hpart =>
      refine .inl ⟨by simp, ?_, .inr hpart⟩
      rw [max_eq_left hpos.le]
    next hall => exact .inr ⟨rfl, hpos, not_lt.mp hall⟩

theorem executeReturn_tellsTruth_iff (trip : RentedTrip) (request : ReturnRequest)
    (otpFound completes : Bool) :
    TellsTruth s (executeReturn s trip request otpFound completes) ↔
      ReturnInTruth s trip request otpFound completes := by
  unfold TellsTruth ReturnInTruth
  rcases executeReturn_cases s trip request otpFound completes with
    ⟨hstops, hfails⟩ | ⟨hgoes, hok, hissued, hrow⟩
  · rw [hfails]
    exact iff_of_true (fun h => by cases h) fun h => absurd h hstops
  rw [hok, hissued, forall_prop_of_true rfl, forall_prop_of_true hgoes]
  set charges := trip.totalAdditionalCharges request
  set s' := (executeReturn s trip request otpFound completes).1
  cases hdeposit : s.securityDeposit with
  | none =>
    refine iff_of_true (fun r hr => ?_) fun _ hmem => by cases hmem
    simp [marksRefunded, hdeposit] at hr
  | some deposit =>
    simp only [Option.mem_def, Option.some.injEq, forall_eq']
    by_cases hheld : deposit.status = .held
    case neg =>
      refine iff_of_true (fun r hr => ?_) fun h => absurd h hheld
      unfold marksRefunded at hr
      rw [hdeposit] at hr
      split at hr
      next old new hold hnew =>
        cases hold
        rw [if_neg fun h => hheld h.1] at hr
        cases hr
      · cases hr
    have hnew : s'.securityDeposit = some (settleAtReturn deposit charges).1 := by
      rw [hrow, settleReturnDeposit, hdeposit]
      dsimp only
      rw [if_pos hheld]
    rw [forall_prop_of_true hheld]
    rcases settleAtReturn_cases deposit charges with
      ⟨hmarked, hamount, hcharges⟩ | ⟨hforfeited, hpos, hall⟩
    · rw [marksRefunded_eq hdeposit hheld hnew hmarked, hamount]
      simp only [Option.some.injEq, forall_eq']
      split <;> constructor <;> intro <;> omega
    · refine iff_of_true (fun r hr => ?_) ?_
      · simp only [marksRefunded, hdeposit, hnew, hforfeited] at hr
        rw [if_neg fun h => absurd h.2 (by decide)] at hr
        cases hr
      · rw [if_neg (not_le.mpr hpos)]
        exact hall

end Calls

/-! ## Histories -/

inductive DepositAction where
  | payment (action : PaymentAction)
  | gatewaySettles (event : WebhookEvent)
  | holdDeposit (newId : Id) (amount : Decimal) (razorpayPaymentId : Option String)
  | recordCollateral (newId : Id) (dto : RecordCollateralDto) (isAdminOrVendor : Bool)
  | releaseDeposit (answer : GatewayRefundAnswer) (mockId : String)
  | settleDeduction (deductAmount : Decimal) (answer : GatewayRefundAnswer) (mockId : String)
  | executeReturn (trip : RentedTrip) (request : ReturnRequest) (otpFound completes : Bool)
  /-- The booking goes on through its statuses. -/
  | setStatus (status : BookingStatus)

def depositStep (config : PaymentConfig) (s : Checkout) : DepositAction → Checkout
  | .payment action => paymentStep config s action
  | .gatewaySettles event => CarRental.gatewaySettles s event
  | .holdDeposit newId amount razorpayPaymentId => (s.holdDeposit newId amount razorpayPaymentId).1
  | .recordCollateral newId dto isAdminOrVendor => (s.recordCollateral newId dto isAdminOrVendor).1
  | .releaseDeposit answer mockId => (CarRental.releaseDeposit config s answer mockId).1
  | .settleDeduction deductAmount answer mockId =>
    (CarRental.settleDeduction config s deductAmount answer mockId).1
  | .executeReturn trip request otpFound completes =>
    (CarRental.executeReturn s trip request otpFound completes).1
  | .setStatus status => { s with booking := { s.booking with status } }

/-- The step is no call that marks the deposit refunded without a refund of the amount. -/
def RefundTruthful (config : PaymentConfig) (s : Checkout) : DepositAction → Prop
  | .releaseDeposit answer mockId => TellsTruth s (releaseDeposit config s answer mockId)
  | .settleDeduction deductAmount answer mockId =>
    TellsTruth s (settleDeduction config s deductAmount answer mockId)
  | .executeReturn trip request otpFound completes =>
    TellsTruth s (executeReturn s trip request otpFound completes)
  | _ => True

/-- The conditions of the three calls. -/
def RefundsInTruth (config : PaymentConfig) (s : Checkout) : DepositAction → Prop
  | .releaseDeposit answer _ => ReleaseInTruth config s answer
  | .settleDeduction deductAmount answer _ => SettlementInTruth config s deductAmount answer
  | .executeReturn trip request otpFound completes =>
    ReturnInTruth s trip request otpFound completes
  | _ => True

theorem refundTruthful_iff (config : PaymentConfig) (s : Checkout) (action : DepositAction) :
    RefundTruthful config s action ↔ RefundsInTruth config s action := by
  cases action with
  | releaseDeposit answer mockId => exact releaseDeposit_tellsTruth_iff
  | settleDeduction deductAmount answer mockId => exact settleDeduction_tellsTruth_iff deductAmount
  | executeReturn trip request otpFound completes =>
    exact executeReturn_tellsTruth_iff trip request otpFound completes
  | _ => exact Iff.rfl

/-- Whatever has happened to a deposit and its payment, no call of a history marks the
deposit refunded without a new refund of the amount exactly if each call is made under its
condition. -/
theorem refunds_truthful_iff (config : PaymentConfig) (s : Checkout)
    (actions : List DepositAction) :
    Along (depositStep config) (RefundTruthful config) s actions ↔
      Along (depositStep config) (RefundsInTruth config) s actions :=
  along_congr (I := fun _ => True) (fun _ _ _ => trivial)
    (fun s action _ _ => refundTruthful_iff config s action) trivial

/-- Collateral recorded after the deposit of 50.00 has been paid, and a release. -/
def collateralAfterPayment : List DepositAction :=
  [.setStatus .confirmed,
    .recordCollateral "other" ⟨.digilockerHighTrust, none, false, none, none, false⟩ true,
    .releaseDeposit (.issued "refund" .processed) "mock"]

/-- The deposit is marked refunded, and the customer gets nothing back. -/
theorem collateral_release_refunds_nothing :
    ¬ Along (depositStep liveConfig) (RefundTruthful liveConfig) paidCheckout
      collateralAfterPayment := by
  rintro ⟨-, -, h, -⟩
  have hissued := h (by decide +kernel) 5000 (by decide +kernel)
  revert hissued
  decide +kernel

end CarRental
