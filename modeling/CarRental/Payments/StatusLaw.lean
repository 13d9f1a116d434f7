import CarRental.Lib.Runs
import CarRental.Payments.Refund
import CarRental.Payments.Webhook

/-!
# The status of a payment over whole runs

`assertValidTransition` is the law of a payment's status, but only the
verification asks it.  This file says exactly which calls and events break it.

## Strategy

For each entry point, one lemma says when it writes the status.  The transitions that
the law refuses are finite tables (`decide`); together they give the steps that break
the law (`statusChangeAllowed_paymentStep`).
-/

namespace CarRental

open Runs

inductive PaymentAction where
  | createOrder (customerId : Id) (useWallet : Bool) (newPaymentId : Id)
      (gatewayOrder : Option String) (nonce : String)
  | verifyPayment (customerId : Id) (dto : VerifyPaymentDto) (signatureValid : Bool)
      (fetch : PaymentFetch)
  | webhook (eventId : String) (event : WebhookEvent)
  | refund (request : RefundRequest) (answer : GatewayRefundAnswer) (mockId : String)
  | adminRefund (dto : AdminRefundDto) (adminId : Id) (isAdmin : Bool) (generatedKey : String)
      (answer : GatewayRefundAnswer) (mockId : String)

/-- What a call or an event leaves, whether it succeeds or not. -/
def paymentStep (config : PaymentConfig) (s : Checkout) : PaymentAction → Checkout
  | .createOrder customerId useWallet newPaymentId gatewayOrder nonce =>
    (createOrder config s customerId useWallet newPaymentId gatewayOrder nonce).1
  | .verifyPayment customerId dto signatureValid fetch =>
    (verifyPayment config s customerId dto signatureValid fetch).1
  | .webhook eventId event => (handleWebhook s eventId event).1
  | .refund request answer mockId => (refund config s request answer mockId).1
  | .adminRefund dto adminId isAdmin generatedKey answer mockId =>
    (adminRefund config s dto adminId isAdmin generatedKey answer mockId).1

/-- What `assertValidTransition` allows to become of a status: a payment row is opened
in `CREATED`, keeps to the table, and stays. -/
def StatusChange (fromStatus toStatus : Option PaymentStatus) : Prop :=
  match toStatus with
  | some status => ValidTransition fromStatus status
  | none => fromStatus = none

instance : ∀ fromStatus toStatus : Option PaymentStatus, Decidable (StatusChange fromStatus toStatus)
  | fromStatus, some status => inferInstanceAs (Decidable (ValidTransition fromStatus status))
  | none, none => .isTrue rfl
  | some _, none => .isFalse nofun

def StatusChangeAllowed (s s' : Checkout) : Prop :=
  StatusChange s.paymentStatus s'.paymentStatus

instance (s s' : Checkout) : Decidable (StatusChangeAllowed s s') :=
  inferInstanceAs (Decidable (StatusChange _ _))

theorem statusChange_refl (status : Option PaymentStatus) : StatusChange status status := by
  cases status with
  | none => rfl
  | some status => exact .inl rfl

theorem statusChangeAllowed_of_eq {s s' : Checkout} (h : s'.paymentStatus = s.paymentStatus) :
    StatusChangeAllowed s s' := by
  rw [StatusChangeAllowed, h]
  exact statusChange_refl _

theorem statusChangeAllowed_iff {s s' : Checkout} {status : PaymentStatus}
    (h : s'.paymentStatus = some status) :
    StatusChangeAllowed s s' ↔ ValidTransition s.paymentStatus status := by
  rw [StatusChangeAllowed, h]
  rfl

/-! ## Orders -/

section Orders

variable {config : PaymentConfig} {s : Checkout} {customerId newPaymentId : Id} {useWallet : Bool}
  {gatewayOrder : Option String} {nonce : String}

/-- `createOrder` passes its checks, apart from the one on the payment's status. -/
def OrderOpens (config : PaymentConfig) (s : Checkout) (customerId : Id) (useWallet : Bool)
    (gatewayOrder : Option String) : Prop :=
  s.booking.customerId = customerId ∧ s.booking.status = .pending ∧
    quoteMismatch s.booking s.totalExpected = false ∧
    (s.totalExpected ≤ walletShare s useWallet ∨ config.useMock ∨ gatewayOrder.isSome) ∧
    |s.totalExpected| < 10 ^ 10

instance : Decidable (OrderOpens config s customerId useWallet gatewayOrder) :=
  inferInstanceAs (Decidable (_ ∧ _))

theorem orderFor_isSome (nonce : String) :
    (orderFor config s (walletShare s useWallet) gatewayOrder nonce).isSome ↔
      s.totalExpected ≤ walletShare s useWallet ∨ config.useMock ∨ gatewayOrder.isSome := by
  unfold orderFor
  split
  next hfull => simp [show s.totalExpected ≤ walletShare s useWallet by omega]
  next hfull =>
    have hpart : ¬ s.totalExpected ≤ walletShare s useWallet := by omega
    split
    next hmock => simp [hmock]
    next hmock => simp [hpart, hmock]

theorem createOrder_of_opens (hopens : OrderOpens config s customerId useWallet gatewayOrder)
    (hpaid : s.paymentStatus ≠ some .paid) (hrefunded : s.paymentStatus ≠ some .refunded) :
    (createOrder config s customerId useWallet newPaymentId gatewayOrder nonce).1.paymentStatus =
      some .created := by
  obtain ⟨hcustomer, hpending, hquote, horder, hfits⟩ := hopens
  obtain ⟨orderId, horderId⟩ := Option.isSome_iff_exists.mp
    ((orderFor_isSome nonce).mpr horder)
  have hamount : (Column.ofPaise? s.totalExpected : Option Money) = some ⟨s.totalExpected, hfits⟩ :=
    Column.ofPaise?_eq_some.mpr rfl
  simp only [createOrder, hcustomer, hpending, hpaid, hrefunded, hquote, horderId, hamount, ne_eq,
    not_true_eq_false, or_self, if_false, Bool.false_eq_true, Checkout.audit_paymentStatus,
    Checkout.setPayment_paymentStatus]
  unfold orderedPayment
  cases s.payment <;> rfl

theorem createOrder_refused (newPaymentId : Id) (nonce : String)
    (h : ¬ (OrderOpens config s customerId useWallet gatewayOrder ∧
      s.paymentStatus ≠ some .paid ∧ s.paymentStatus ≠ some .refunded)) :
    ∃ e, createOrder config s customerId useWallet newPaymentId gatewayOrder nonce =
      (s, .error e) := by
  unfold createOrder
  split
  · exact ⟨_, rfl⟩
  next hcustomer =>
    split
    · exact ⟨_, rfl⟩
    next hpending =>
      split
      · exact ⟨_, rfl⟩
      next hstatus =>
        split
        · exact ⟨_, rfl⟩
        next hquote =>
          simp only
          split
          · exact ⟨_, rfl⟩
          next orderId horderId =>
            split
            · exact ⟨_, rfl⟩
            next amount hamount =>
              exfalso
              refine h ⟨⟨not_not.mp hcustomer, not_not.mp hpending, by simpa using hquote, ?_, ?_⟩, ?_⟩
              · exact (orderFor_isSome nonce).mp (Option.isSome_of_eq_some horderId)
              · rw [← Column.ofPaise?_eq_some.mp hamount]
                exact amount.inRange
              · exact not_or.mp hstatus

theorem createOrder_of_not_opens
    (h : ¬ (OrderOpens config s customerId useWallet gatewayOrder ∧
      s.paymentStatus ≠ some .paid ∧ s.paymentStatus ≠ some .refunded)) :
    (createOrder config s customerId useWallet newPaymentId gatewayOrder nonce).1 = s := by
  obtain ⟨e, hrefused⟩ := createOrder_refused newPaymentId nonce h
  rw [hrefused]

end Orders

/-! ## Verification -/

section Verification

variable {config : PaymentConfig} {s : Checkout} {customerId : Id} {dto : VerifyPaymentDto}
  {signatureValid : Bool} {fetch : PaymentFetch}

/-- The gateway reports the payment of this order, in the right currency, as failed. -/
def GatewaySaysFailed (config : PaymentConfig) (dto : VerifyPaymentDto) (signatureValid : Bool)
    (fetch : PaymentFetch) : Prop :=
  config.useMock = false ∧ dto.razorpayOrderId.isWalletFull = false ∧ signatureValid = true ∧
    match fetch with
    | .found payment => payment.orderId.any (· ≠ dto.razorpayOrderId) = false ∧
        currencyIsInr payment.currency = true ∧ payment.status = .failed
    | _ => False

instance : Decidable (GatewaySaysFailed config dto signatureValid fetch) := by
  unfold GatewaySaysFailed
  cases fetch <;> infer_instance

/-- The customer's verification reaches the write of `FAILED`, apart from the checks
on the payment's status. -/
def VerifyFindsFailure (config : PaymentConfig) (s : Checkout) (customerId : Id)
    (dto : VerifyPaymentDto) (signatureValid : Bool) (fetch : PaymentFetch) : Prop :=
  s.booking.customerId = customerId ∧
    s.payment.any (fun payment => payment.razorpayOrderId = some dto.razorpayOrderId) = true ∧
    GatewaySaysFailed config dto signatureValid fetch

instance : Decidable (VerifyFindsFailure config s customerId dto signatureValid fetch) :=
  inferInstanceAs (Decidable (_ ∧ _))

theorem fetchedSettlement_found_eq_failedAtGateway {payment : GatewayPayment} {orderId : OrderId}
    {totalExpected : ℤ} :
    fetchedSettlement orderId totalExpected (.found payment) = .failedAtGateway ↔
      payment.orderId.any (· ≠ orderId) = false ∧ currencyIsInr payment.currency = true ∧
        payment.status = .failed := by
  rw [fetchedSettlement]
  split
  next hother =>
    rw [hother]
    simp
  next horder =>
    rw [Bool.not_eq_true] at horder
    rw [horder]
    split
    next hcurrency =>
      rw [Bool.not_eq_true'] at hcurrency
      simp [hcurrency]
    next hcurrency =>
      rw [Bool.not_eq_true', Bool.not_eq_false] at hcurrency
      rw [hcurrency]
      cases payment.status with
      | failed => simp
      | captured =>
        simp only [true_and, reduceCtorEq, iff_false]
        split <;> simp
      | created => simp
      | authorized => simp
      | refunded => simp

theorem settlement_eq_failedAtGateway (totalExpected : ℤ) :
    settlement config dto signatureValid fetch totalExpected = .failedAtGateway ↔
      GatewaySaysFailed config dto signatureValid fetch := by
  unfold settlement GatewaySaysFailed
  cases hmock : config.useMock with
  | true =>
    simp only [Bool.true_eq_false, false_and, iff_false]
    split
    · simp
    split
    · simp
    simp only [Bool.not_true, Bool.false_eq_true, if_false]
    split <;> simp
  | false =>
    cases hfull : dto.razorpayOrderId.isWalletFull with
    | true => simp
    | false =>
      cases signatureValid with
      | false => simp
      | true =>
        cases fetch with
        | error message => simp [fetchedSettlement]
        | missing => simp [fetchedSettlement]
        | found payment =>
          simp only [Bool.false_and, Bool.not_false, Bool.not_true, Bool.and_false,
            Bool.false_eq_true, if_false, if_true, true_and]
          exact fetchedSettlement_found_eq_failedAtGateway

theorem verifyPayment_status (config : PaymentConfig) (s : Checkout) (customerId : Id)
    (dto : VerifyPaymentDto) (signatureValid : Bool) (fetch : PaymentFetch) :
    (VerifyFindsFailure config s customerId dto signatureValid fetch ∧
        s.paymentStatus ≠ some .paid ∧ s.paymentStatus ≠ some .refunded ∧
        (verifyPayment config s customerId dto signatureValid fetch).1.paymentStatus =
          some .failed) ∨
      (¬ (VerifyFindsFailure config s customerId dto signatureValid fetch ∧
          s.paymentStatus ≠ some .paid ∧ s.paymentStatus ≠ some .refunded) ∧
        StatusChangeAllowed s (verifyPayment config s customerId dto signatureValid fetch).1) := by
  unfold verifyPayment
  -- the checks in the order of `verifyPayment`; each that fails leaves the status as it is
  by_cases hcustomer : s.booking.customerId = customerId
  case neg =>
    rw [if_pos hcustomer]
    exact .inr ⟨fun h => hcustomer h.1.1, statusChangeAllowed_of_eq rfl⟩
  rw [if_neg (not_not.mpr hcustomer)]
  cases hpayment : s.payment with
  | none =>
    refine .inr ⟨fun h => ?_, statusChangeAllowed_of_eq rfl⟩
    simpa [hpayment] using h.1.2.1
  | some payment =>
    have hstatus : s.paymentStatus = some payment.status := Checkout.paymentStatus_eq hpayment
    simp only
    by_cases horder : payment.razorpayOrderId = some dto.razorpayOrderId
    case neg =>
      rw [if_pos horder]
      refine .inr ⟨fun h => horder ?_, statusChangeAllowed_of_eq rfl⟩
      simpa [hpayment] using h.1.2.1
    rw [if_neg (not_not.mpr horder)]
    by_cases hpaid : payment.status = .paid
    · rw [if_pos hpaid]
      refine .inr ⟨fun h => h.2.1 (by rw [hstatus, hpaid]), ?_⟩
      split <;> exact statusChangeAllowed_of_eq rfl
    rw [if_neg hpaid]
    by_cases hrefunded : payment.status = .refunded
    · rw [if_pos hrefunded]
      exact .inr ⟨fun h => h.2.2 (by rw [hstatus, hrefunded]), statusChangeAllowed_of_eq rfl⟩
    rw [if_neg hrefunded]
    have hnotPaid : s.paymentStatus ≠ some .paid := by simpa [hstatus] using hpaid
    have hnotRefunded : s.paymentStatus ≠ some .refunded := by simpa [hstatus] using hrefunded
    have hfinds : VerifyFindsFailure config s customerId dto signatureValid fetch ↔
        GatewaySaysFailed config dto signatureValid fetch := by
      simp [VerifyFindsFailure, hcustomer, hpayment, horder]
    -- past its checks the call finds a failure exactly if the gateway reports one
    rw [hfinds, ← settlement_eq_failedAtGateway s.totalExpected]
    cases hsettle : settlement config dto signatureValid fetch s.totalExpected with
    | refused e =>
      exact .inr ⟨fun h => (by cases h.1), statusChangeAllowed_of_eq rfl⟩
    | failedAtGateway => exact .inl ⟨rfl, hnotPaid, hnotRefunded, rfl⟩
    | settled gatewayPaid walletRequired =>
      refine .inr ⟨fun h => (by cases h.1), ?_⟩
      simp only
      cases htx : verifyTransaction config s payment dto gatewayPaid walletRequired with
      | error e => exact statusChangeAllowed_of_eq rfl
      | ok s' =>
        obtain ⟨hvalid, hnew, -⟩ := verifyTransaction_eq_ok htx
        exact (statusChangeAllowed_iff hnew).mpr (hstatus ▸ hvalid)

end Verification

/-! ## Events -/

section Events

variable {s : Checkout} {payment : Payment}

/-- The event comes when the payment has already moved on, and is acted on all the same. -/
def LateEvent (s : Checkout) (payment : Payment) : WebhookEvent → Prop
  | .paymentCaptured orderId paymentId amount currency =>
    (orderId.any fun order => payment.matchesCapture order paymentId) = true ∧
      currencyIsInr currency = true ∧ captureAmountMatches payment amount = true ∧
      captureJournalAccepted s payment = true ∧
      payment.status ∈ [.failed, .cancelled, .expired, .partiallyRefunded, .refunded]
  | .paymentFailed orderId _ =>
    payment.matchesOrder orderId = true ∧
      payment.status ∈ [.captured, .cancelled, .expired, .partiallyRefunded]
  | .refundProcessed refundId paymentId _ =>
    payment.matchesRefund refundId paymentId = true ∧ payment.refundStatus ≠ .processed ∧
      payment.status ∈ [.created, .pending, .authorized, .failed, .cancelled, .expired]
  | _ => False

instance (event : WebhookEvent) : Decidable (LateEvent s payment event) := by
  unfold LateEvent
  cases event <;> infer_instance

/-! The transitions to the three statuses that events write. -/

theorem validTransition_paid_iff : ∀ status, status ≠ .paid →
    (ValidTransition (some status) .paid ↔
      status ∉ [.failed, .cancelled, .expired, .partiallyRefunded, .refunded]) := by
  intro status
  cases status <;> decide

theorem validTransition_failed_iff : ∀ status, status ≠ .paid → status ≠ .refunded →
    (ValidTransition (some status) .failed ↔
      status ∉ [.captured, .cancelled, .expired, .partiallyRefunded]) := by
  intro status
  cases status <;> decide

theorem validTransition_refunded_iff : ∀ status,
    ValidTransition (some status) .refunded ↔
      status ∉ [.created, .pending, .authorized, .failed, .cancelled, .expired] := by
  intro status
  cases status <;> decide

theorem validTransition_created_iff : ∀ status, status ≠ .paid → status ≠ .refunded →
    (ValidTransition (some status) .created ↔
      status ∉ [.pending, .authorized, .captured, .partiallyRefunded]) := by
  intro status
  cases status <;> decide

theorem capturedRun_status (hpayment : s.payment = some payment) (eventId : String)
    (orderId : OrderId) (paymentId : String) (amount : Option ℤ) (currency : Option String) :
    StatusChangeAllowed s ((capturedRun s eventId orderId paymentId amount currency).1.getLastD s) ↔
      ¬ LateEvent s payment (.paymentCaptured (some orderId) paymentId amount currency) := by
  have hstatus : s.paymentStatus = some payment.status := Checkout.paymentStatus_eq hpayment
  simp only [LateEvent, Option.any_some]
  unfold capturedRun
  rw [hpayment]
  cases hmatch : payment.matchesCapture orderId paymentId with
  | false =>
    -- an order of no booking is looked up among the vendor deposits, which leave the payment
    -- alone
    have hvendor : ((vendorDepositRun s orderId paymentId).1.getLastD s).paymentStatus =
        s.paymentStatus := by
      unfold vendorDepositRun
      cases s.vendorDeposit with
      | none => rfl
      | some deposit =>
        simp only
        split
        · split <;> rfl
        · rfl
    simpa [Option.filter, hmatch] using statusChangeAllowed_of_eq hvendor
  | true =>
    simp only [Option.filter_some, hmatch, if_true]
    cases hcurrency : currencyIsInr currency with
    | false => simpa using statusChangeAllowed_of_eq rfl
    | true =>
      cases hamount : captureAmountMatches payment amount with
      | false => simpa using statusChangeAllowed_of_eq rfl
      | true =>
        simp only [Bool.not_true, Bool.false_eq_true, if_false, true_and]
        by_cases hpaid : payment.status = .paid
        · rw [if_pos hpaid]
          refine iff_of_true (statusChangeAllowed_of_eq rfl) fun h => ?_
          rw [hpaid] at h
          exact absurd h.2 (by decide)
        rw [if_neg hpaid]
        -- an unpaid payment becomes paid if its journal is accepted, whatever it was before
        have haccepted : captureJournalAccepted s payment =
            (captureTransaction s payment paymentId).isOk := captureTransaction_isOk.symm
        cases htx : captureTransaction s payment paymentId with
        | error e =>
          rw [haccepted, htx]
          exact iff_of_true (statusChangeAllowed_of_eq rfl) fun h => (by cases h.1)
        | ok s' =>
          have hnew := (captureTransaction_eq_ok htx).1
          rw [haccepted, htx]
          refine (statusChangeAllowed_iff (Checkout.paymentStatus_eq hnew)).trans ?_
          rw [hstatus, validTransition_paid_iff _ hpaid]
          simp [Except.isOk, Except.toBool]

theorem failedRun_status (hpayment : s.payment = some payment) (orderId : OrderId)
    (paymentId : String) :
    StatusChangeAllowed s ((failedRun s orderId paymentId).1.getLastD s) ↔
      ¬ LateEvent s payment (.paymentFailed orderId paymentId) := by
  have hstatus : s.paymentStatus = some payment.status := Checkout.paymentStatus_eq hpayment
  unfold failedRun LateEvent
  rw [hpayment]
  cases hmatch : payment.matchesOrder orderId with
  | false => simpa [Option.filter, hmatch] using statusChangeAllowed_of_eq rfl
  | true =>
    simp only [Option.filter_some, hmatch, if_true, true_and]
    by_cases hdone : payment.status = .paid ∨ payment.status = .refunded
    · rw [if_pos hdone]
      refine iff_of_true (statusChangeAllowed_of_eq rfl) ?_
      rcases hdone with h | h <;> rw [h] <;> decide
    · rw [if_neg hdone]
      obtain ⟨hpaid, hrefunded⟩ := not_or.mp hdone
      refine (statusChangeAllowed_iff (Checkout.paymentStatus_eq rfl)).trans ?_
      rw [hstatus, validTransition_failed_iff _ hpaid hrefunded]

theorem authorizedRun_status (hpayment : s.payment = some payment) (orderId : OrderId)
    (paymentId : String) :
    StatusChangeAllowed s ((authorizedRun s orderId paymentId).1.getLastD s) := by
  have hstatus : s.paymentStatus = some payment.status := Checkout.paymentStatus_eq hpayment
  unfold authorizedRun
  rw [hpayment]
  cases hmatch : payment.matchesOrder orderId with
  | false => simpa [Option.filter, hmatch] using statusChangeAllowed_of_eq rfl
  | true =>
    simp only [Option.filter_some, hmatch, if_true]
    by_cases hcreated : payment.status = .created
    · rw [if_pos hcreated]
      refine (statusChangeAllowed_iff (Checkout.paymentStatus_eq rfl)).mpr ?_
      rw [hstatus, hcreated]
      exact .inr (show PaymentStatus.authorized ∈ validTransitions .created by decide)
    · rw [if_neg hcreated]
      exact statusChangeAllowed_of_eq rfl

theorem refundProcessedRun_status (hpayment : s.payment = some payment)
    (refundId paymentId : String) (amountPaise : ℤ) :
    StatusChangeAllowed s ((refundProcessedRun s refundId paymentId amountPaise).1.getLastD s) ↔
      ¬ LateEvent s payment (.refundProcessed refundId paymentId amountPaise) := by
  have hstatus : s.paymentStatus = some payment.status := Checkout.paymentStatus_eq hpayment
  unfold refundProcessedRun LateEvent
  rw [hpayment]
  cases hmatch : payment.matchesRefund refundId paymentId with
  | false => simpa [Option.filter, hmatch] using statusChangeAllowed_of_eq rfl
  | true =>
    simp only [Option.filter_some, hmatch, if_true, true_and]
    by_cases hprocessed : payment.refundStatus = .processed
    · rw [if_pos hprocessed]
      exact iff_of_true (statusChangeAllowed_of_eq rfl) fun h => h.1 hprocessed
    · rw [if_neg hprocessed]
      refine (statusChangeAllowed_iff (Checkout.paymentStatus_eq rfl)).trans ?_
      rw [hstatus, validTransition_refunded_iff]
      simp [hprocessed]

theorem refundCreatedRun_status (hpayment : s.payment = some payment)
    (refundId paymentId : String) (amountPaise : ℤ) :
    ((refundCreatedRun s refundId paymentId amountPaise).1.getLastD s).paymentStatus =
      s.paymentStatus := by
  unfold refundCreatedRun
  rw [hpayment, Checkout.paymentStatus_eq hpayment]
  cases hmatch : payment.matchesRefund refundId paymentId with
  | false => simpa [Option.filter, hmatch] using Checkout.paymentStatus_eq hpayment
  | true =>
    simp only [Option.filter_some, hmatch, if_true]
    split
    · exact Checkout.paymentStatus_eq hpayment
    · rfl

theorem refundFailedRun_status (hpayment : s.payment = some payment)
    (refundId paymentId : String) :
    ((refundFailedRun s refundId paymentId).1.getLastD s).paymentStatus = s.paymentStatus := by
  unfold refundFailedRun
  rw [hpayment, Checkout.paymentStatus_eq hpayment]
  cases hmatch : payment.matchesRefund refundId paymentId with
  | false => simpa [Option.filter, hmatch] using Checkout.paymentStatus_eq hpayment
  | true =>
    simp only [Option.filter_some, hmatch, if_true]
    rfl

theorem webhookRun_status (hpayment : s.payment = some payment) (eventId : String)
    (event : WebhookEvent) :
    StatusChangeAllowed s ((webhookRun s eventId event).1.getLastD s) ↔
      ¬ LateEvent s payment event := by
  cases event with
  | paymentCaptured orderId paymentId amount currency =>
    cases orderId with
    | none => exact iff_of_true (statusChangeAllowed_of_eq rfl) (by simp [LateEvent])
    | some orderId => exact capturedRun_status hpayment eventId orderId paymentId amount currency
  | paymentFailed orderId paymentId => exact failedRun_status hpayment orderId paymentId
  | paymentAuthorized orderId paymentId =>
    exact iff_of_true (authorizedRun_status hpayment orderId paymentId) id
  | refundProcessed refundId paymentId amountPaise =>
    exact refundProcessedRun_status hpayment refundId paymentId amountPaise
  | refundCreated refundId paymentId amountPaise =>
    exact iff_of_true
      (statusChangeAllowed_of_eq (refundCreatedRun_status hpayment refundId paymentId amountPaise)) id
  | refundFailed refundId paymentId =>
    exact iff_of_true
      (statusChangeAllowed_of_eq (refundFailedRun_status hpayment refundId paymentId)) id
  | ignored => exact iff_of_true (statusChangeAllowed_of_eq rfl) id

theorem webhookRun_payment_none (hpayment : s.payment = none) (eventId : String)
    (event : WebhookEvent) :
    ((webhookRun s eventId event).1.getLastD s).payment = none := by
  have hamount := (webhookRun_getLastD_frame s eventId event).amount
  rw [hpayment, Option.map_none, Option.map_eq_none_iff] at hamount
  exact hamount

end Events

/-! ## Refunds -/

section Refunds

variable {config : PaymentConfig} {s : Checkout}

theorem refund_status (request : RefundRequest) (answer : GatewayRefundAnswer) (mockId : String) :
    StatusChangeAllowed s (refund config s request answer mockId).1 := by
  unfold refund
  cases hpayment : s.payment with
  | none => exact statusChangeAllowed_of_eq rfl
  | some payment =>
    have hstatus : s.paymentStatus = some payment.status := Checkout.paymentStatus_eq hpayment
    simp only
    by_cases hpaid : payment.status = .paid
    case neg =>
      rw [if_pos hpaid]
      exact statusChangeAllowed_of_eq rfl
    rw [if_neg (not_not.mpr hpaid)]
    split
    · exact statusChangeAllowed_of_eq (hstatus ▸ rfl)
    split
    · exact statusChangeAllowed_of_eq rfl
    split
    · exact statusChangeAllowed_of_eq rfl
    split
    · exact statusChangeAllowed_of_eq rfl
    next s₁ refundId status hgateway =>
      obtain ⟨gatewayRefunds, rfl⟩ := gatewayRefund_eq_ok hgateway
      split
      · exact statusChangeAllowed_of_eq rfl
      next s₂ hwallet =>
        obtain ⟨wallet, rfl⟩ := walletRefund_eq_ok hwallet
        refine (statusChangeAllowed_iff (recordRefund_paymentStatus _ _ _ _ _)).mpr ?_
        rw [hstatus, hpaid]
        split <;> decide

theorem adminRefund_status (dto : AdminRefundDto) (adminId : Id) (isAdmin : Bool)
    (generatedKey : String) (answer : GatewayRefundAnswer) (mockId : String) :
    StatusChangeAllowed s
      (adminRefund config s dto adminId isAdmin generatedKey answer mockId).1 := by
  unfold adminRefund
  split
  · exact statusChangeAllowed_of_eq rfl
  split
  · exact statusChangeAllowed_of_eq rfl
  next payment hpayment =>
    split
    · exact statusChangeAllowed_of_eq rfl
    simp only
    split
    · exact statusChangeAllowed_of_eq rfl
    split
    · exact statusChangeAllowed_of_eq rfl
    exact refund_status _ answer mockId

end Refunds

/-! ## Runs -/

/-- The steps that change the status against the law: an order that is renewed while
its payment is under way or partly refunded, a verification that finds a settled or
closed payment failed at the gateway, and a late event. -/
def BreaksStatusLaw (config : PaymentConfig) (s : Checkout) : PaymentAction → Prop
  | .createOrder customerId useWallet _ gatewayOrder _ =>
    OrderOpens config s customerId useWallet gatewayOrder ∧
      ∃ payment ∈ s.payment,
        payment.status ∈ [.pending, .authorized, .captured, .partiallyRefunded]
  | .verifyPayment customerId dto signatureValid fetch =>
    VerifyFindsFailure config s customerId dto signatureValid fetch ∧
      ∃ payment ∈ s.payment,
        payment.status ∈ [.captured, .cancelled, .expired, .partiallyRefunded]
  | .webhook eventId event =>
    eventRecorded s eventId = false ∧ ∃ payment ∈ s.payment, LateEvent s payment event
  | .refund _ _ _ | .adminRefund _ _ _ _ _ _ => False

instance (config : PaymentConfig) (s : Checkout) (action : PaymentAction) :
    Decidable (BreaksStatusLaw config s action) := by
  unfold BreaksStatusLaw
  cases action <;> infer_instance

section Run

variable {config : PaymentConfig} {s : Checkout}

theorem createOrder_status (customerId newPaymentId : Id) (useWallet : Bool)
    (gatewayOrder : Option String) (nonce : String) :
    StatusChangeAllowed s
        (createOrder config s customerId useWallet newPaymentId gatewayOrder nonce).1 ↔
      ¬ BreaksStatusLaw config s
        (.createOrder customerId useWallet newPaymentId gatewayOrder nonce) := by
  by_cases hgoes : OrderOpens config s customerId useWallet gatewayOrder ∧
      s.paymentStatus ≠ some .paid ∧ s.paymentStatus ≠ some .refunded
  case neg =>
    rw [createOrder_of_not_opens hgoes]
    refine iff_of_true (statusChangeAllowed_of_eq rfl) ?_
    rintro ⟨hopens, payment, hpayment, hstatus⟩
    refine hgoes ⟨hopens, ?_, ?_⟩ <;> rw [Checkout.paymentStatus_eq hpayment] <;>
      exact (Option.some_injective _).ne (ne_of_mem_of_not_mem hstatus (by decide))
  obtain ⟨hopens, hpaid, hrefunded⟩ := hgoes
  rw [statusChangeAllowed_iff (createOrder_of_opens hopens hpaid hrefunded)]
  cases hpayment : s.payment with
  | none =>
    refine iff_of_true ?_ ?_
    · rw [Checkout.paymentStatus, hpayment]
      rfl
    · rintro ⟨-, payment, hmem, -⟩
      rw [hpayment] at hmem
      cases hmem
  | some payment =>
    rw [Checkout.paymentStatus_eq hpayment] at hpaid hrefunded ⊢
    rw [validTransition_created_iff payment.status (fun h => hpaid (congrArg some h))
      (fun h => hrefunded (congrArg some h))]
    simp [BreaksStatusLaw, hopens, hpayment]

theorem verifyPayment_statusChangeAllowed (customerId : Id) (dto : VerifyPaymentDto)
    (signatureValid : Bool) (fetch : PaymentFetch) :
    StatusChangeAllowed s (verifyPayment config s customerId dto signatureValid fetch).1 ↔
      ¬ BreaksStatusLaw config s (.verifyPayment customerId dto signatureValid fetch) := by
  rcases verifyPayment_status config s customerId dto signatureValid fetch with
    ⟨hfinds, hpaid, hrefunded, hnew⟩ | ⟨hnot, hallowed⟩
  · rw [statusChangeAllowed_iff hnew]
    obtain ⟨payment, hpayment⟩ : ∃ payment, s.payment = some payment := by
      obtain ⟨payment, hpayment, -⟩ := Option.any_eq_true _ _ |>.mp hfinds.2.1
      exact ⟨payment, hpayment⟩
    rw [Checkout.paymentStatus_eq hpayment] at hpaid hrefunded ⊢
    rw [validTransition_failed_iff payment.status (fun h => hpaid (congrArg some h))
      (fun h => hrefunded (congrArg some h))]
    simp [BreaksStatusLaw, hfinds, hpayment]
  · refine iff_of_true hallowed ?_
    rintro ⟨hfinds, payment, hpayment, hstatus⟩
    refine hnot ⟨hfinds, ?_, ?_⟩ <;> rw [Checkout.paymentStatus_eq hpayment] <;>
      exact (Option.some_injective _).ne (ne_of_mem_of_not_mem hstatus (by decide))

theorem handleWebhook_status (eventId : String) (event : WebhookEvent) :
    StatusChangeAllowed s (handleWebhook s eventId event).1 ↔
      ¬ BreaksStatusLaw config s (.webhook eventId event) := by
  unfold handleWebhook
  cases hrecorded : eventRecorded s eventId with
  | true =>
    rw [if_pos rfl]
    refine iff_of_true (statusChangeAllowed_of_eq rfl) ?_
    rintro ⟨hfresh, -⟩
    rw [hrecorded] at hfresh
    cases hfresh
  | false =>
    rw [if_neg Bool.false_ne_true]
    cases hpayment : s.payment with
    | none =>
      have hnone := webhookRun_payment_none (s := recordEvent s eventId) hpayment eventId event
      refine iff_of_true (statusChangeAllowed_of_eq ?_) ?_
      · simp only [Checkout.paymentStatus, hnone, hpayment]
      · rintro ⟨-, payment, hmem, -⟩
        rw [hpayment] at hmem
        cases hmem
    | some payment =>
      have hrun := webhookRun_status (s := recordEvent s eventId) hpayment eventId event
      have hlate : LateEvent (recordEvent s eventId) payment event ↔ LateEvent s payment event :=
        Iff.rfl
      refine Iff.trans (Iff.trans Iff.rfl hrun) (not_congr ?_)
      simp [BreaksStatusLaw, hrecorded, hpayment, hlate]

theorem statusChangeAllowed_paymentStep (action : PaymentAction) :
    StatusChangeAllowed s (paymentStep config s action) ↔ ¬ BreaksStatusLaw config s action := by
  cases action with
  | createOrder customerId useWallet newPaymentId gatewayOrder nonce =>
    exact createOrder_status customerId newPaymentId useWallet gatewayOrder nonce
  | verifyPayment customerId dto signatureValid fetch =>
    exact verifyPayment_statusChangeAllowed customerId dto signatureValid fetch
  | webhook eventId event => exact handleWebhook_status eventId event
  | refund request answer mockId => exact iff_of_true (refund_status request answer mockId) id
  | adminRefund dto adminId isAdmin generatedKey answer mockId =>
    exact iff_of_true (adminRefund_status dto adminId isAdmin generatedKey answer mockId) id

end Run

end CarRental
