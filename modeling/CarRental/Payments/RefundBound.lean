import CarRental.Lib.Runs
import CarRental.Payments.Refund
import CarRental.Payments.Webhook

/-!
# How much a payment sends back

Refunds, admin refunds and deposit releases send money back through the gateway and
the wallet; the gateway may settle a pending refund later and tell so by an event.
`sentBack` is what has been sent and has not failed.

A refund is compared with the whole payment, not with what earlier refunds left of
it, and a refund that the gateway still holds as pending leaves the payment `PAID`.
The bound `sentBack ≤ amount` therefore holds along a run exactly when each call
sends at most what is left (`refunds_bounded_iff`).

## Strategy

`actionSent` computes from the state before a step what the step sends, and the step
lemma is an equation: `sentBack` grows by exactly that.
-/

namespace CarRental

open Runs

/-! ## What has been sent back -/

/-- A gateway refund counts unless it has failed. -/
def GatewayRefund.sent (refund : GatewayRefund) : ℤ :=
  if refund.status = .failed then 0 else refund.paise

def gatewaySentBack (s : Checkout) : ℤ := (s.gatewayRefunds.map GatewayRefund.sent).sum

/-- Refund credits of the booking in the customer's wallet. -/
def walletSentBack (s : Checkout) : ℤ :=
  ((s.wallet.entries.filter fun entry => entry.type = .bookingRefund ∧
    entry.referenceType = "BOOKING" ∧ entry.referenceId = some s.booking.id).map
      WalletLedgerEntry.amount).sum

def sentBack (s : Checkout) : ℤ := gatewaySentBack s + walletSentBack s

/-- No more is sent back than the payment's amount. -/
def RefundsBounded (s : Checkout) : Prop :=
  ∀ payment ∈ s.payment, sentBack s ≤ payment.amount.paise

instance (s : Checkout) : Decidable (RefundsBounded s) :=
  decidable_of_iff ((s.payment.all fun payment => sentBack s ≤ payment.amount.paise) = true) (by
    simp [RefundsBounded, Option.all_eq_true])

/-! ## What a call sends -/

/-- The gateway has answered with a refund, so the call goes on. -/
def GatewayRefundAnswer.isRefund : GatewayRefundAnswer → Bool
  | .issued _ _ | .alreadyRefunded (some _) => true
  | _ => false

/-- The gateway has taken on a new refund. -/
def GatewayRefundAnswer.isAccepted : GatewayRefundAnswer → Bool
  | .issued _ state => state ≠ .failed
  | _ => false

/-- The gateway's part of a refund does not stop the call. -/
def gatewayTakes (config : PaymentConfig) (payment : Payment) (gatewayPaise : ℤ)
    (answer : GatewayRefundAnswer) : Bool :=
  gatewayPaise ≤ 0 || config.useMock || (payment.razorpayPaymentId.isSome && answer.isRefund)

def gatewaySent (config : PaymentConfig) (gatewayPaise : ℤ) (answer : GatewayRefundAnswer) : ℤ :=
  if 0 < gatewayPaise ∧ (config.useMock ∨ answer.isAccepted) then gatewayPaise else 0

/-- The wallet is credited once, if it can be. -/
def walletSent (config : PaymentConfig) (s : Checkout) (payment : Payment) (walletPaise : ℤ) : ℤ :=
  if 0 < walletPaise ∧ (s.wallet.findEntry (walletRefundKey s payment)).isNone ∧
      (s.wallet.creditWallet config walletPaise .bookingRefund .refundCredit "BOOKING"
        (some s.booking.id) (walletRefundKey s payment)).isOk then walletPaise
  else 0

/-- The checks that `refund` makes before it asks the gateway. -/
def RefundPasses (s : Checkout) (payment : Payment) (request : RefundRequest) : Prop :=
  payment.status = .paid ∧ 0 < request.refundAmountInPaise ∧
    request.refundAmountInPaise ≤ payment.amount.paise ∧
    findRefund s (request.idempotencyKey.getD (defaultRefundKey s payment)) = none

instance (s : Checkout) (payment : Payment) (request : RefundRequest) :
    Decidable (RefundPasses s payment request) :=
  inferInstanceAs (Decidable (_ ∧ _))

def refundSent (config : PaymentConfig) (s : Checkout) (request : RefundRequest)
    (answer : GatewayRefundAnswer) : ℤ :=
  match s.payment with
  | none => 0
  | some payment =>
    let gatewayPaise := gatewayRefundPart s payment request.refundAmountInPaise
    if RefundPasses s payment request ∧ gatewayTakes config payment gatewayPaise answer then
      gatewaySent config gatewayPaise answer +
        walletSent config s payment (walletRefundPart s payment request.refundAmountInPaise)
    else 0

section Parts

variable {config : PaymentConfig} {s s' : Checkout} {payment : Payment} {answer : GatewayRefundAnswer}
  {mockId : String}

theorem gatewayRefund_isOk (config : PaymentConfig) (s : Checkout) (payment : Payment)
    (gatewayPaise : ℤ) (answer : GatewayRefundAnswer) (mockId : String) :
    (gatewayRefund config s payment gatewayPaise answer mockId).isOk =
      gatewayTakes config payment gatewayPaise answer := by
  unfold gatewayRefund gatewayTakes
  by_cases hpaise : 0 < gatewayPaise
  case neg => simp [hpaise, not_lt.mp hpaise, Except.isOk, Except.toBool]
  rw [dif_pos hpaise, decide_eq_false (not_le.mpr hpaise)]
  cases config.useMock with
  | true => rfl
  | false =>
    cases payment.razorpayPaymentId with
    | none => rfl
    | some id =>
      rcases answer with ⟨id, state⟩ | ⟨_ | existing⟩ | ⟨description⟩ <;> rfl

theorem AddsRefund.sentBack {paise : ℤ} {status : RefundStatus} (h : AddsRefund s s' paise status) :
    gatewaySentBack s' = gatewaySentBack s + if status = .failed then 0 else paise := by
  obtain ⟨refund, rfl, rfl, rfl⟩ := h
  simp [gatewaySentBack, GatewayRefund.sent]

theorem gatewayRefund_sentBack {gatewayPaise : ℤ} {refundId : GatewayRefundId}
    {status : RefundStatus}
    (h : gatewayRefund config s payment gatewayPaise answer mockId = .ok (s', refundId, status)) :
    gatewaySentBack s' = gatewaySentBack s + gatewaySent config gatewayPaise answer := by
  unfold gatewaySent
  rcases gatewayRefund_cases h with ⟨hnone, -, -, rfl⟩ | ⟨hpaise, hmock, -, rfl, hadded⟩ |
    ⟨hpaise, hlive, id, state, -, rfl, ⟨rfl, rfl⟩ | ⟨rfl, hadded⟩⟩
  · rw [if_neg fun hsent => not_lt.mpr hnone hsent.1, add_zero]
  · have hsent : 0 < gatewayPaise ∧ (config.useMock = true ∨ answer.isAccepted = true) :=
      ⟨hpaise, .inl hmock⟩
    rw [hadded.sentBack, if_neg RefundStatus.noConfusion, if_pos hsent]
  · simp [hlive, GatewayRefundAnswer.isAccepted]
  · rw [hadded.sentBack]
    cases state <;>
      simp [hpaise, hlive, GatewayRefundAnswer.isAccepted, GatewayRefundState.refundStatus]

theorem walletRefund_sentBack {walletPaise : ℤ}
    (h : walletRefund config s payment walletPaise = .ok s') :
    walletSentBack s' = walletSentBack s + walletSent config s payment walletPaise := by
  unfold walletRefund at h
  unfold walletSent
  split at h
  next hpaise =>
    split at h
    next wallet hcredit =>
      cases h
      have hentries := (Wallet.creditWallet_eq_ok hcredit).2
      simp only [walletSentBack, hentries, hcredit, Except.isOk, Except.toBool, hpaise]
      cases s.wallet.findEntry (walletRefundKey s payment) with
      | some entry => simp
      | none => simp [List.filter_append]
    · cases h
  next hpaise =>
    cases h
    simp [hpaise]

theorem walletSent_of_error {walletPaise : ℤ} {e : HttpError}
    (h : walletRefund config s payment walletPaise = .error e) :
    walletSent config s payment walletPaise = 0 := by
  unfold walletRefund at h
  unfold walletSent
  split at h
  · split at h
    · cases h
    next hcredit => simp [hcredit, Except.isOk, Except.toBool]
  · cases h

end Parts

/-! ## One call -/

/-- What a call or event keeps: the payment's amount and the id of the booking. -/
def KeepsAmount (s s' : Checkout) : Prop :=
  s'.payment.map Payment.amount = s.payment.map Payment.amount ∧ s'.booking.id = s.booking.id

section Calls

variable {config : PaymentConfig} {s : Checkout}

theorem sentBack_congr {s s' : Checkout} (hgateway : s'.gatewayRefunds = s.gatewayRefunds)
    (hwallet : s'.wallet = s.wallet) (hid : s'.booking.id = s.booking.id) :
    sentBack s' = sentBack s := by
  simp only [sentBack, gatewaySentBack, walletSentBack, hgateway, hwallet, hid]

variable {payment : Payment} {request : RefundRequest}

theorem refund_of_not_passes (hpayment : s.payment = some payment)
    (h : ¬ RefundPasses s payment request) (answer : GatewayRefundAnswer) (mockId : String) :
    (refund config s request answer mockId).1 = s ∨
      (refund config s request answer mockId).1 =
        s.setPayment { payment with refundAmount := some 0, refundStatus := .none } := by
  unfold refund
  simp only [hpayment]
  by_cases hpaid : payment.status = .paid
  case neg => exact .inl (by rw [if_pos hpaid])
  rw [if_neg (not_not.mpr hpaid)]
  by_cases hpositive : 0 < request.refundAmountInPaise
  case neg => exact .inr (by rw [if_pos (not_lt.mp hpositive)])
  rw [if_neg (not_le.mpr hpositive)]
  by_cases hfits : request.refundAmountInPaise ≤ payment.amount.paise
  case neg => exact .inl (by rw [if_pos (not_le.mp hfits)])
  rw [if_neg (not_lt.mpr hfits)]
  cases hknown : findRefund s (request.idempotencyKey.getD (defaultRefundKey s payment)) with
  | some existing => exact .inl rfl
  | none => exact absurd ⟨hpaid, hpositive, hfits, hknown⟩ h

theorem refund_eq_of_passes (hpayment : s.payment = some payment)
    (h : RefundPasses s payment request) (answer : GatewayRefundAnswer) (mockId : String) :
    refund config s request answer mockId =
      match gatewayRefund config s payment
        (gatewayRefundPart s payment request.refundAmountInPaise) answer mockId with
      | .error e => (s, .error e)
      | .ok (s₁, refundId, status) =>
        match walletRefund config s₁ payment
          (walletRefundPart s payment request.refundAmountInPaise) with
        | .error e => (s₁, .error e)
        | .ok s₂ => (recordRefund s₂ payment request.refundAmountInPaise
            (request.idempotencyKey.getD (defaultRefundKey s payment)) request.requestedByUserId
            refundId status, .ok ⟨some refundId, request.refundAmountInPaise, status, false⟩) := by
  obtain ⟨hpaid, hpositive, hfits, hunknown⟩ := h
  unfold refund
  cases hgateway : gatewayRefund config s payment
      (gatewayRefundPart s payment request.refundAmountInPaise) answer mockId with
  | error e =>
    simp only [hpayment, hpaid, hunknown, hgateway, ne_eq, not_true_eq_false, if_false,
      not_le.mpr hpositive, not_lt.mpr hfits]
  | ok result =>
    obtain ⟨s₁, refundId, status⟩ := result
    cases hwallet : walletRefund config s₁ payment
        (walletRefundPart s payment request.refundAmountInPaise) <;>
      simp only [hpayment, hpaid, hunknown, hgateway, hwallet, ne_eq, not_true_eq_false,
        if_false, not_le.mpr hpositive, not_lt.mpr hfits]

theorem refund_of_passes (hpayment : s.payment = some payment) (h : RefundPasses s payment request)
    (answer : GatewayRefundAnswer) (mockId : String) :
    (refund config s request answer mockId).1 =
      match gatewayRefund config s payment
        (gatewayRefundPart s payment request.refundAmountInPaise) answer mockId with
      | .error _ => s
      | .ok (s₁, refundId, status) =>
        match walletRefund config s₁ payment
          (walletRefundPart s payment request.refundAmountInPaise) with
        | .error _ => s₁
        | .ok s₂ => recordRefund s₂ payment request.refundAmountInPaise
            (request.idempotencyKey.getD (defaultRefundKey s payment)) request.requestedByUserId
            refundId status := by
  rw [refund_eq_of_passes hpayment h]
  cases gatewayRefund config s payment (gatewayRefundPart s payment request.refundAmountInPaise)
      answer mockId with
  | error e => rfl
  | ok result =>
    dsimp only
    cases walletRefund config result.1 payment
      (walletRefundPart s payment request.refundAmountInPaise) <;> rfl

theorem refund_sentBack_of_passes (hpayment : s.payment = some payment)
    (h : RefundPasses s payment request) (answer : GatewayRefundAnswer) (mockId : String) :
    KeepsAmount s (refund config s request answer mockId).1 ∧
      sentBack (refund config s request answer mockId).1 =
        sentBack s + refundSent config s request answer := by
  rw [refund_of_passes hpayment h]
  simp only [refundSent, hpayment, h, true_and]
  set gatewayPaise := gatewayRefundPart s payment request.refundAmountInPaise
  set walletPaise := walletRefundPart s payment request.refundAmountInPaise
  rw [← gatewayRefund_isOk config s payment gatewayPaise answer mockId]
  cases hgateway : gatewayRefund config s payment gatewayPaise answer mockId with
  | error e => exact ⟨⟨rfl, rfl⟩, (add_zero _).symm⟩
  | ok result =>
    obtain ⟨s₁, refundId, status⟩ := result
    have hsent := gatewayRefund_sentBack hgateway
    obtain ⟨gatewayRefunds, rfl⟩ := gatewayRefund_eq_ok hgateway
    have hcredit : walletSent config { s with gatewayRefunds } payment walletPaise =
        walletSent config s payment walletPaise := rfl
    simp only [Except.isOk, Except.toBool, if_true]
    cases hwallet : walletRefund config { s with gatewayRefunds } payment walletPaise with
    | error e =>
      -- the gateway's part has left and stays sent
      refine ⟨⟨rfl, rfl⟩, ?_⟩
      have hnone := walletSent_of_error hwallet
      rw [← hcredit, hnone, add_zero]
      show gatewaySentBack { s with gatewayRefunds } + walletSentBack s =
        gatewaySentBack s + walletSentBack s + _
      rw [hsent]
      ring
    | ok s₂ =>
      have hcredited := walletRefund_sentBack hwallet
      obtain ⟨wallet, rfl⟩ := walletRefund_eq_ok hwallet
      refine ⟨⟨by rw [hpayment]; rfl, rfl⟩, ?_⟩
      show gatewaySentBack { s with gatewayRefunds } +
          walletSentBack { s with gatewayRefunds, wallet } =
        gatewaySentBack s + walletSentBack s + _
      rw [hsent, hcredited, hcredit]
      show _ + (walletSentBack s + _) = _
      ring

theorem refund_sentBack (config : PaymentConfig) (s : Checkout) (request : RefundRequest)
    (answer : GatewayRefundAnswer) (mockId : String) :
    KeepsAmount s (refund config s request answer mockId).1 ∧
      sentBack (refund config s request answer mockId).1 =
        sentBack s + refundSent config s request answer := by
  cases hpayment : s.payment with
  | none =>
    have hsame : (refund config s request answer mockId).1 = s := by
      simp [refund, hpayment]
    have hnothing : refundSent config s request answer = 0 := by
      simp [refundSent, hpayment]
    rw [hsame, hnothing]
    exact ⟨⟨rfl, rfl⟩, (add_zero _).symm⟩
  | some payment =>
    by_cases hpasses : RefundPasses s payment request
    · exact refund_sentBack_of_passes hpayment hpasses answer mockId
    have hnothing : refundSent config s request answer = 0 := by
      simp [refundSent, hpayment, hpasses]
    rw [hnothing, add_zero]
    rcases refund_of_not_passes hpayment hpasses answer mockId with hsame | hwritten
    · rw [hsame]
      exact ⟨⟨rfl, rfl⟩, rfl⟩
    · rw [hwritten]
      exact ⟨⟨by rw [hpayment]; rfl, rfl⟩, rfl⟩

/-- The refund that an admin's request becomes once it has passed its own checks. -/
def adminRefundRequest (s : Checkout) (dto : AdminRefundDto) (adminId : Id) (isAdmin : Bool)
    (generatedKey : String) : Option RefundRequest :=
  match s.payment with
  | none => none
  | some payment =>
    if isAdmin ∧ payment.status ∈ [.paid, .refunded, .partiallyRefunded] ∧
        payment.refundAmount.getD 0 < payment.amount.paise ∧
        adminRefundTarget payment dto ≤ payment.amount.paise - payment.refundAmount.getD 0 then
      some ⟨adminRefundTarget payment dto, some (dto.idempotencyKey.getD generatedKey),
        some adminId⟩
    else none

theorem adminRefund_cases (config : PaymentConfig) (s : Checkout) (dto : AdminRefundDto)
    (adminId : Id) (isAdmin : Bool) (generatedKey : String) (answer : GatewayRefundAnswer)
    (mockId : String) :
    (adminRefundRequest s dto adminId isAdmin generatedKey = none ∧
        ∃ e, adminRefund config s dto adminId isAdmin generatedKey answer mockId =
          (s, .error e)) ∨
      ∃ request, adminRefundRequest s dto adminId isAdmin generatedKey = some request ∧
        adminRefund config s dto adminId isAdmin generatedKey answer mockId =
          refund config s request answer mockId := by
  unfold adminRefund adminRefundRequest
  cases isAdmin with
  | false =>
    cases s.payment with
    | none => exact .inl ⟨rfl, _, rfl⟩
    | some payment => simp
  | true =>
    cases hpayment : s.payment with
    | none => exact .inl ⟨rfl, _, rfl⟩
    | some payment =>
      simp only [Bool.not_true, Bool.false_eq_true, if_false, true_and, List.mem_cons,
        List.not_mem_nil, or_false]
      by_cases hstatus : payment.status = .paid ∨ payment.status = .refunded ∨
          payment.status = .partiallyRefunded
      case neg =>
        have hrefused : payment.status ≠ .paid ∧ payment.status ≠ .refunded ∧
            payment.status ≠ .partiallyRefunded := by
          simpa only [not_or] using hstatus
        rw [if_pos hrefused, if_neg fun h => hstatus h.1]
        exact .inl ⟨rfl, _, rfl⟩
      have haccepted : ¬ (payment.status ≠ .paid ∧ payment.status ≠ .refunded ∧
          payment.status ≠ .partiallyRefunded) := by
        simpa only [← not_or, not_not] using hstatus
      rw [if_neg haccepted]
      by_cases hleft : payment.refundAmount.getD 0 < payment.amount.paise
      case neg =>
        have hnone : payment.amount.paise - payment.refundAmount.getD 0 ≤ 0 := by omega
        rw [if_pos hnone, if_neg fun h => hleft h.2.1]
        exact .inl ⟨rfl, _, rfl⟩
      have hsome : ¬ payment.amount.paise - payment.refundAmount.getD 0 ≤ 0 := by omega
      rw [if_neg hsome]
      by_cases htarget : adminRefundTarget payment dto ≤
          payment.amount.paise - payment.refundAmount.getD 0
      case neg =>
        rw [if_pos (not_le.mp htarget), if_neg fun h => htarget h.2.2]
        exact .inl ⟨rfl, _, rfl⟩
      rw [if_neg (not_lt.mpr htarget), if_pos ⟨hstatus, hleft, htarget⟩]
      exact .inr ⟨_, rfl, rfl⟩

theorem adminRefund_eq (dto : AdminRefundDto) (adminId : Id) (isAdmin : Bool)
    (generatedKey : String) (answer : GatewayRefundAnswer) (mockId : String) :
    (adminRefund config s dto adminId isAdmin generatedKey answer mockId).1 =
      match adminRefundRequest s dto adminId isAdmin generatedKey with
      | none => s
      | some request => (refund config s request answer mockId).1 := by
  rcases adminRefund_cases config s dto adminId isAdmin generatedKey answer mockId with
    ⟨hnone, e, heq⟩ | ⟨request, hsome, heq⟩
  · rw [hnone, heq]
  · rw [hsome, heq]

/-- The refund that the release of a held deposit asks for. -/
def releaseRequest (s : Checkout) : Option RefundRequest :=
  match s.securityDeposit with
  | none => none
  | some deposit =>
    if deposit.status = .held ∧ deposit.deductedAmount < deposit.amount.paise ∧
        deposit.isCollateral = false then
      some ⟨deposit.amount.paise - deposit.deductedAmount, none, none⟩
    else none

theorem settleRelease_sentBack (deposit : SecurityDeposit) (remaining : ℤ)
    (razorpayRefundId : Option GatewayRefundId) :
    KeepsAmount s (settleRelease s deposit remaining razorpayRefundId) ∧
      sentBack (settleRelease s deposit remaining razorpayRefundId) = sentBack s := by
  unfold settleRelease
  simp only
  split <;> exact ⟨⟨rfl, rfl⟩, rfl⟩

theorem releaseDeposit_sentBack (config : PaymentConfig) (s : Checkout)
    (answer : GatewayRefundAnswer) (mockId : String) :
    KeepsAmount s (releaseDeposit config s answer mockId).1 ∧
      sentBack (releaseDeposit config s answer mockId).1 = sentBack s +
        ((releaseRequest s).map fun request => refundSent config s request answer).getD 0 := by
  unfold releaseDeposit releaseRequest
  cases hdeposit : s.securityDeposit with
  | none => exact ⟨⟨rfl, rfl⟩, (add_zero _).symm⟩
  | some deposit =>
    simp only
    by_cases hheld : deposit.status = .held
    case neg =>
      rw [if_pos hheld, if_neg fun h => hheld h.1]
      exact ⟨⟨rfl, rfl⟩, (add_zero _).symm⟩
    rw [if_neg (not_not.mpr hheld)]
    by_cases hremaining : deposit.deductedAmount < deposit.amount.paise
    case neg =>
      rw [if_pos (by omega), if_neg fun h => hremaining h.2.1]
      exact ⟨⟨rfl, rfl⟩, (add_zero _).symm⟩
    rw [if_neg (by omega)]
    cases hcollateral : deposit.isCollateral with
    | true =>
      simp only [hheld, hremaining, if_true, Bool.true_eq_false, and_false, if_false,
        Option.map_none, Option.getD_none, add_zero]
      exact settleRelease_sentBack _ _ _
    | false =>
      set released : SecurityDeposit := { deposit with
        status := if 0 < deposit.deductedAmount then .partiallyRefunded else .refunded }
      obtain ⟨⟨hamount, hid⟩, hsent⟩ := refund_sentBack config
        (setDeposit s released) ⟨deposit.amount.paise - deposit.deductedAmount, none, none⟩
        answer mockId
      simp only [hheld, hremaining, true_and, if_true, Bool.false_eq_true, if_false,
        Option.map_some, Option.getD_some]
      -- the status of the deposit is written before the refund and plays no part in it
      have hsame : refundSent config (setDeposit s released)
          ⟨deposit.amount.paise - deposit.deductedAmount, none, none⟩ answer =
        refundSent config s ⟨deposit.amount.paise - deposit.deductedAmount, none, none⟩ answer :=
        rfl
      rw [hsame] at hsent
      cases hrefund : refund config (setDeposit s released)
          ⟨deposit.amount.paise - deposit.deductedAmount, none, none⟩ answer mockId with
      | mk s₂ reply =>
        rw [hrefund] at hamount hid hsent
        cases reply with
        | error e => exact ⟨⟨hamount, hid⟩, hsent⟩
        | ok reply =>
          obtain ⟨⟨hamount', hid'⟩, hsent'⟩ := settleRelease_sentBack (s := s₂) released
            (deposit.amount.paise - deposit.deductedAmount) reply.refundId
          exact ⟨⟨hamount'.trans hamount, hid'.trans hid⟩, hsent'.trans hsent⟩

end Calls

/-! ## Events -/

/-- Nothing that `sentBack` or the bound reads has changed. -/
def SameMoney (s s' : Checkout) : Prop :=
  KeepsAmount s s' ∧ s'.gatewayRefunds = s.gatewayRefunds ∧ s'.wallet = s.wallet

section Events

variable {s : Checkout}

theorem WebhookFrame.sameMoney {s' : Checkout} (h : WebhookFrame s s') : SameMoney s s' :=
  ⟨⟨h.amount, congrArg Booking.id h.booking⟩, h.gatewayRefunds, h.wallet⟩

theorem sameMoney_handleWebhook (eventId : String) (event : WebhookEvent) :
    SameMoney s (handleWebhook s eventId event).1 := by
  unfold handleWebhook
  split
  · exact (WebhookFrame.refl s).sameMoney
  · -- the row alone is added before the processing
    have hrun : WebhookFrame (recordEvent s eventId) _ :=
      webhookRun_getLastD_frame (recordEvent s eventId) eventId event
    exact hrun.sameMoney

def GatewayRefund.settle (refundId : String) (status : RefundStatus) (refund : GatewayRefund) :
    GatewayRefund :=
  if refund.id = refundId ∧ refund.status = .pending then { refund with status } else refund

/-- What has happened at the gateway when it sends an event about a pending refund. -/
def gatewaySettles (s : Checkout) : WebhookEvent → Checkout
  | .refundProcessed refundId _ _ =>
    { s with gatewayRefunds := s.gatewayRefunds.map (GatewayRefund.settle refundId .processed) }
  | .refundFailed refundId _ =>
    { s with gatewayRefunds := s.gatewayRefunds.map (GatewayRefund.settle refundId .failed) }
  | _ => s

theorem settle_sent (refundId : String) (status : RefundStatus) (refund : GatewayRefund) :
    (refund.settle refundId status).sent ≤ refund.sent := by
  unfold GatewayRefund.settle
  split
  next hpending =>
    have hpositive := refund.positive
    have hcounted : refund.sent = refund.paise := by
      rw [GatewayRefund.sent, hpending.2, if_neg (by decide)]
    rw [hcounted, GatewayRefund.sent]
    split
    · exact hpositive.le
    · exact le_rfl
  · exact le_rfl

theorem settle_gatewaySentBack (refundId : String) (status : RefundStatus) :
    gatewaySentBack
        { s with gatewayRefunds := s.gatewayRefunds.map (GatewayRefund.settle refundId status) } ≤
      gatewaySentBack s := by
  simp only [gatewaySentBack, List.map_map]
  exact List.sum_le_sum fun refund _ => settle_sent refundId status refund

theorem gatewaySettles_sentBack (event : WebhookEvent) :
    KeepsAmount s (gatewaySettles s event) ∧ sentBack (gatewaySettles s event) ≤ sentBack s := by
  unfold gatewaySettles
  split
  · exact ⟨⟨rfl, rfl⟩, Int.add_le_add_right (settle_gatewaySentBack _ _) _⟩
  · exact ⟨⟨rfl, rfl⟩, Int.add_le_add_right (settle_gatewaySentBack _ _) _⟩
  · exact ⟨⟨rfl, rfl⟩, le_rfl⟩

end Events

/-! ## Runs -/

/-- What the services are asked to do, and what the gateway tells. -/
inductive RefundAction where
  | refund (request : RefundRequest) (answer : GatewayRefundAnswer) (mockId : String)
  | adminRefund (dto : AdminRefundDto) (adminId : Id) (isAdmin : Bool) (generatedKey : String)
      (answer : GatewayRefundAnswer) (mockId : String)
  | releaseDeposit (answer : GatewayRefundAnswer) (mockId : String)
  | webhook (eventId : String) (event : WebhookEvent)
deriving DecidableEq

def refundStep (config : PaymentConfig) (s : Checkout) : RefundAction → Checkout
  | .refund request answer mockId => (refund config s request answer mockId).1
  | .adminRefund dto adminId isAdmin generatedKey answer mockId =>
    (adminRefund config s dto adminId isAdmin generatedKey answer mockId).1
  | .releaseDeposit answer mockId => (releaseDeposit config s answer mockId).1
  | .webhook eventId event => (handleWebhook (gatewaySettles s event) eventId event).1

def requestedRefund (s : Checkout) : RefundAction → Option (RefundRequest × GatewayRefundAnswer)
  | .refund request answer _ => some (request, answer)
  | .adminRefund dto adminId isAdmin generatedKey answer _ =>
    (adminRefundRequest s dto adminId isAdmin generatedKey).map (·, answer)
  | .releaseDeposit answer _ => (releaseRequest s).map (·, answer)
  | .webhook _ _ => none

/-- What an action sends: the gateway's part if the gateway takes it on, and the
wallet's part if it is credited. -/
def actionSent (config : PaymentConfig) (s : Checkout) (action : RefundAction) : ℤ :=
  ((requestedRefund s action).map fun (request, answer) => refundSent config s request answer).getD 0

def SendsWhatIsLeft (config : PaymentConfig) (s : Checkout) (action : RefundAction) : Prop :=
  ∀ payment ∈ s.payment, actionSent config s action ≤ payment.amount.paise - sentBack s

instance (config : PaymentConfig) (s : Checkout) (action : RefundAction) :
    Decidable (SendsWhatIsLeft config s action) :=
  decidable_of_iff ((s.payment.all fun payment =>
    actionSent config s action ≤ payment.amount.paise - sentBack s) = true) (by
      simp [SendsWhatIsLeft, Option.all_eq_true])

section Runs

variable {config : PaymentConfig} {s : Checkout}

theorem refundStep_sentBack (config : PaymentConfig) (s : Checkout) (action : RefundAction) :
    KeepsAmount s (refundStep config s action) ∧
      (sentBack (refundStep config s action) = sentBack s + actionSent config s action ∨
        actionSent config s action = 0 ∧ sentBack (refundStep config s action) ≤ sentBack s) := by
  cases action with
  | refund request answer mockId =>
    obtain ⟨hkeeps, hsent⟩ := refund_sentBack config s request answer mockId
    exact ⟨hkeeps, .inl hsent⟩
  | adminRefund dto adminId isAdmin generatedKey answer mockId =>
    simp only [refundStep, adminRefund_eq, actionSent, requestedRefund]
    cases adminRefundRequest s dto adminId isAdmin generatedKey with
    | none => exact ⟨⟨rfl, rfl⟩, .inl (add_zero _).symm⟩
    | some request =>
      obtain ⟨hkeeps, hsent⟩ := refund_sentBack config s request answer mockId
      exact ⟨hkeeps, .inl hsent⟩
  | releaseDeposit answer mockId =>
    obtain ⟨hkeeps, hsent⟩ := releaseDeposit_sentBack config s answer mockId
    refine ⟨hkeeps, .inl ?_⟩
    simp only [refundStep, hsent, actionSent, requestedRefund]
    cases releaseRequest s <;> rfl
  | webhook eventId event =>
    obtain ⟨⟨hamount, hid⟩, hsettled⟩ := gatewaySettles_sentBack (s := s) event
    obtain ⟨⟨hamount', hid'⟩, hgateway, hwallet⟩ :=
      sameMoney_handleWebhook (s := gatewaySettles s event) eventId event
    refine ⟨⟨hamount'.trans hamount, hid'.trans hid⟩, .inr ⟨rfl, ?_⟩⟩
    exact (sentBack_congr hgateway hwallet hid').trans_le hsettled

theorem refundsBounded_step (hbounded : RefundsBounded s) (action : RefundAction) :
    RefundsBounded (refundStep config s action) ↔ SendsWhatIsLeft config s action := by
  obtain ⟨⟨hamount, -⟩, hsent⟩ := refundStep_sentBack config s action
  unfold RefundsBounded at hbounded ⊢
  unfold SendsWhatIsLeft
  cases hpayment : s.payment with
  | none =>
    rw [hpayment, Option.map_none, Option.map_eq_none_iff] at hamount
    rw [hamount]
    simp
  | some payment =>
    rw [hpayment, Option.map_some, Option.map_eq_some_iff] at hamount
    obtain ⟨payment', hpayment', hsame⟩ := hamount
    have hbound := hbounded payment hpayment
    rw [hpayment']
    simp only [Option.mem_def, Option.some.injEq, forall_eq', hsame]
    rcases hsent with hsent | ⟨hnone, hsent⟩
    · omega
    · omega

end Runs

/-- Fare 1118.00 and a held deposit of 50.00, paid through the gateway. -/
def paidCheckout : Checkout :=
  { sampleCheckout with
    securityDeposit := some ⟨"deposit", sampleDeposit, 0, 0, .held, some "pay", none⟩
    payment := some { samplePayment with
      amount := sampleTotal, status := .paid, razorpayPaymentId := some "pay" } }

end CarRental
