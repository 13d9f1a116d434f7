import CarRental.Payments.Orders

/-!
# The payment webhook

`PaymentsService.handleWebhook` after the signature check.  An event's id is
recorded first, in a write of its own; an event whose id is already recorded is
answered as a duplicate.  The processing of a new event is then one or two
committed writes.  `webhookWrites` lists the states after each of them, so that
a delivery that is cut short is a prefix of the list.

Events carry the fields that the service reads from the gateway's payload; a
payload without the entity its kind needs is `ignored`.
-/

namespace CarRental

inductive WebhookEvent where
  /-- `payment.captured`, `order.paid` and the other gateways' names for them. -/
  | paymentCaptured (orderId : Option OrderId) (paymentId : String) (amount : Option ℤ)
      (currency : Option String)
  | paymentFailed (orderId : OrderId) (paymentId : String)
  | paymentAuthorized (orderId : OrderId) (paymentId : String)
  | refundProcessed (refundId : String) (paymentId : String) (amountPaise : ℤ)
  | refundCreated (refundId : String) (paymentId : String) (amountPaise : ℤ)
  | refundFailed (refundId : String) (paymentId : String)
  | ignored
deriving DecidableEq

structure WebhookReply where
  duplicate : Bool
  alreadyProcessed : Bool
  vendorDepositProcessed : Bool
  paymentNotFound : Bool
deriving DecidableEq

def WebhookReply.received : WebhookReply := ⟨false, false, false, false⟩

/-- The committed states of a processing, in order, and its reply. -/
abbrev WebhookRun := List Checkout × Except HttpError WebhookReply

/-! ## Finding the payment -/

/-- A capture names the payment by its order, its gateway payment or its own id. -/
def Payment.matchesCapture (payment : Payment) (orderId : OrderId) (paymentId : String) : Bool :=
  payment.razorpayOrderId = some orderId || payment.razorpayPaymentId = some paymentId ||
    orderId = .gateway payment.id

/-- A failure or an authorization names the payment by its order. -/
def Payment.matchesOrder (payment : Payment) (orderId : OrderId) : Bool :=
  payment.razorpayOrderId = some orderId

/-- A refund event names the payment by the refund or by its gateway payment. -/
def Payment.matchesRefund (payment : Payment) (refundId : String) (paymentId : String) : Bool :=
  payment.razorpayRefundId = some (.issued refundId) || payment.razorpayPaymentId = some paymentId

def VendorSecurityDeposit.matchesCapture (deposit : VendorSecurityDeposit) (orderId : OrderId)
    (paymentId : String) : Bool :=
  deposit.providerOrderId = some orderId || deposit.providerPaymentId = some paymentId

/-! ## Processing -/

/-- `status: 'PROCESSED'` on the recorded event. -/
def markProcessed (s : Checkout) (eventId : String) : Checkout :=
  { s with
    webhookEvents := s.webhookEvents.map fun row =>
      if row.eventId = eventId then { row with status := .processed } else row }

/-- The transaction of a capture: the payment is paid and its journal booked, as if
the gateway had captured the whole total. -/
def captureTransaction (s : Checkout) (payment : Payment) (paymentId : String) :
    Except HttpError Checkout :=
  let s' := (s.setPayment
      { payment with status := .paid, razorpayPaymentId := some paymentId }).audit
    { eventType := "WEBHOOK_PAYMENT_CAPTURED"
      fromStatus := some payment.status
      toStatus := .paid
      amount := some payment.amount.paise
      gatewayReference := some paymentId
      source := "WEBHOOK" }
  recordPaymentLedgerJournal s' payment s.totalExpected s.totalExpected 0 false

/-- A capture that belongs to a vendor's security deposit pays it in full. -/
def vendorDepositRun (s : Checkout) (orderId : OrderId) (paymentId : String) : WebhookRun :=
  match s.vendorDeposit with
  | none => ([], .ok { WebhookReply.received with paymentNotFound := true })
  | some deposit =>
    if deposit.matchesCapture orderId paymentId then
      let paidDeposit := { deposit with
        paid := true
        paidAmount := deposit.requiredAmount
        providerPaymentId := some paymentId
        ledger :=
          if deposit.ledger.any fun entry => entry.1 = paymentId then deposit.ledger
          else deposit.ledger ++ [(paymentId, deposit.requiredAmount)] }
      (if deposit.paid then [] else [{ s with vendorDeposit := some paidDeposit }],
        .ok { WebhookReply.received with vendorDepositProcessed := true })
    else ([], .ok { WebhookReply.received with paymentNotFound := true })

/-- A captured amount that is given must be the payment's whole amount. -/
def captureAmountMatches (payment : Payment) (amount : Option ℤ) : Bool :=
  amount.all fun paise => paise = 0 ∨ paise = payment.amount.paise

def capturedRun (s : Checkout) (eventId : String) (orderId : OrderId) (paymentId : String)
    (amount : Option ℤ) (currency : Option String) : WebhookRun :=
  match s.payment.filter fun payment => payment.matchesCapture orderId paymentId with
  | none => vendorDepositRun s orderId paymentId
  | some payment =>
    -- a capture in another currency, or of another amount, is only logged
    if !currencyIsInr currency then ([], .ok .received)
    else if !captureAmountMatches payment amount then ([], .ok .received)
    else if payment.status = .paid then
      ([markProcessed s eventId], .ok { WebhookReply.received with alreadyProcessed := true })
    else
      match captureTransaction s payment paymentId with
      | .error e => ([], .error e)
      -- the event is closed in a write of its own, after the transaction
      | .ok s' => ([s', markProcessed s' eventId], .ok .received)

def webhookAudit (eventType : String) (payment : Payment) (toStatus : PaymentStatus)
    (amount : Option ℤ) (gatewayReference : String) : PaymentAuditEntry where
  eventType
  fromStatus := some payment.status
  toStatus
  amount
  gatewayReference := some gatewayReference
  source := "WEBHOOK"

/-- An update of the payment and then, in a write of its own, its audit entry. -/
def updateRun (s : Checkout) (payment : Payment) (entry : PaymentAuditEntry) : WebhookRun :=
  let s' := s.setPayment payment
  ([s', s'.audit entry], .ok .received)

def failedRun (s : Checkout) (orderId : OrderId) (paymentId : String) : WebhookRun :=
  match s.payment.filter fun payment => payment.matchesOrder orderId with
  | none => ([], .ok .received)
  | some payment =>
    if payment.status = .paid ∨ payment.status = .refunded then ([], .ok .received)
    else updateRun s { payment with status := .failed, razorpayPaymentId := some paymentId }
      (webhookAudit "WEBHOOK_PAYMENT_FAILED" payment .failed none paymentId)

def authorizedRun (s : Checkout) (orderId : OrderId) (paymentId : String) : WebhookRun :=
  match s.payment.filter fun payment => payment.matchesOrder orderId with
  | none => ([], .ok .received)
  | some payment =>
    -- an authorization that comes late is dropped
    if payment.status = .created then
      updateRun s { payment with status := .authorized, razorpayPaymentId := some paymentId }
        (webhookAudit "WEBHOOK_PAYMENT_AUTHORIZED" payment .authorized none paymentId)
    else ([], .ok .received)

def refundProcessedRun (s : Checkout) (refundId paymentId : String) (amountPaise : ℤ) :
    WebhookRun :=
  match s.payment.filter fun payment => payment.matchesRefund refundId paymentId with
  | none => ([], .ok .received)
  | some payment =>
    -- the status of the payment is not looked at, nor are its refund rows
    if payment.refundStatus = .processed then
      ([], .ok { WebhookReply.received with alreadyProcessed := true })
    else
      updateRun s
        { payment with
          status := .refunded
          razorpayRefundId := some (.issued refundId)
          refundAmount := some amountPaise
          refundStatus := .processed }
        (webhookAudit "WEBHOOK_REFUND_PROCESSED" payment .refunded (some amountPaise) refundId)

def refundCreatedRun (s : Checkout) (refundId paymentId : String) (amountPaise : ℤ) :
    WebhookRun :=
  match s.payment.filter fun payment => payment.matchesRefund refundId paymentId with
  | none => ([], .ok .received)
  | some payment =>
    if payment.refundStatus = .processed then ([], .ok .received)
    else
      updateRun s
        { payment with
          razorpayRefundId := some (.issued refundId)
          refundAmount := some amountPaise
          refundStatus := .pending }
        (webhookAudit "WEBHOOK_REFUND_CREATED" payment payment.status (some amountPaise) refundId)

def refundFailedRun (s : Checkout) (refundId paymentId : String) : WebhookRun :=
  match s.payment.filter fun payment => payment.matchesRefund refundId paymentId with
  | none => ([], .ok .received)
  | some payment => ([s.setPayment { payment with refundStatus := .failed }], .ok .received)

/-- The processing of a recorded event. -/
def webhookRun (s : Checkout) (eventId : String) : WebhookEvent → WebhookRun
  | .paymentCaptured none _ _ _ => ([], .ok .received)
  | .paymentCaptured (some orderId) paymentId amount currency =>
    capturedRun s eventId orderId paymentId amount currency
  | .paymentFailed orderId paymentId => failedRun s orderId paymentId
  | .paymentAuthorized orderId paymentId => authorizedRun s orderId paymentId
  | .refundProcessed refundId paymentId amountPaise =>
    refundProcessedRun s refundId paymentId amountPaise
  | .refundCreated refundId paymentId amountPaise =>
    refundCreatedRun s refundId paymentId amountPaise
  | .refundFailed refundId paymentId => refundFailedRun s refundId paymentId
  | .ignored => ([], .ok .received)

/-! ## Delivery -/

def eventRecorded (s : Checkout) (eventId : String) : Bool :=
  s.webhookEvents.any fun row => row.eventId = eventId

def recordEvent (s : Checkout) (eventId : String) : Checkout :=
  { s with webhookEvents := s.webhookEvents ++ [⟨eventId, .received⟩] }

/-- The states that processing a recorded event commits. -/
def webhookWrites (s : Checkout) (eventId : String) (event : WebhookEvent) : List Checkout :=
  (webhookRun s eventId event).1

/-- One delivery of an event, processed to its end. -/
def handleWebhook (s : Checkout) (eventId : String) (event : WebhookEvent) :
    CheckoutReply WebhookReply :=
  if eventRecorded s eventId then
    (s, .ok { WebhookReply.received with duplicate := true, alreadyProcessed := true })
  else
    let recorded := recordEvent s eventId
    let run := webhookRun recorded eventId event
    (run.1.getLastD recorded, run.2)

section Rows

variable {s s' : Checkout}

theorem eventRecorded_markProcessed (eventId other : String) :
    eventRecorded (markProcessed s eventId) other = eventRecorded s other := by
  simp only [eventRecorded, markProcessed, List.any_map]
  congr 1
  funext row
  simp only [Function.comp]
  split <;> rfl

theorem eventRecorded_recordEvent {eventId other : String} (h : eventRecorded s other = true) :
    eventRecorded (recordEvent s eventId) other = true := by
  simp only [eventRecorded, recordEvent, List.any_append] at h ⊢
  rw [h]
  rfl

theorem eventRecorded_recordEvent_self (s : Checkout) (eventId : String) :
    eventRecorded (recordEvent s eventId) eventId = true := by
  simp [eventRecorded, recordEvent]

end Rows

/-! ## What no event changes

An event only tells of money that has moved, so it leaves the refunds and the wallet
alone; it never changes a payment's amount or order; and it keeps every event's row. -/

/-- The payment row and the order it is for. -/
def Checkout.orderRef (s : Checkout) : Option (Id × Option OrderId) :=
  s.payment.map fun payment => (payment.id, payment.razorpayOrderId)

theorem setPayment_orderRef {s : Checkout} {payment payment' : Payment}
    (hpayment : s.payment = some payment) (hid : payment'.id = payment.id)
    (horder : payment'.razorpayOrderId = payment.razorpayOrderId) :
    (s.setPayment payment').orderRef = s.orderRef := by
  rw [Checkout.orderRef, Checkout.orderRef, hpayment, Checkout.setPayment_payment,
    Option.map_some, Option.map_some, hid, horder]

structure WebhookFrame (s s' : Checkout) : Prop where
  booking : s'.booking = s.booking
  amount : s'.payment.map Payment.amount = s.payment.map Payment.amount
  orderRef : s'.orderRef = s.orderRef
  gatewayRefunds : s'.gatewayRefunds = s.gatewayRefunds
  wallet : s'.wallet = s.wallet
  refunds : s'.refunds = s.refunds
  rows : ∀ eventId, eventRecorded s' eventId = eventRecorded s eventId

section Frame

variable {s s' : Checkout}

theorem WebhookFrame.refl (s : Checkout) : WebhookFrame s s :=
  ⟨rfl, rfl, rfl, rfl, rfl, rfl, fun _ => rfl⟩

theorem WebhookFrame.markProcessed (h : WebhookFrame s s') (eventId : String) :
    WebhookFrame s (markProcessed s' eventId) :=
  ⟨h.booking, h.amount, h.orderRef, h.gatewayRefunds, h.wallet, h.refunds,
    fun other => (eventRecorded_markProcessed eventId other).trans (h.rows other)⟩

theorem WebhookFrame.setPayment {payment payment' : Payment} (hpayment : s.payment = some payment)
    (hamount : payment'.amount = payment.amount) (hid : payment'.id = payment.id)
    (horder : payment'.razorpayOrderId = payment.razorpayOrderId) :
    WebhookFrame s (s.setPayment payment') := by
  refine ⟨rfl, ?_, setPayment_orderRef hpayment hid horder, rfl, rfl, rfl, fun _ => rfl⟩
  rw [hpayment, Option.map_some, ← hamount]
  rfl

theorem updateRun_frame {payment payment' : Payment} {entry : PaymentAuditEntry}
    (hs' : s' ∈ (updateRun s payment' entry).1) (hpayment : s.payment = some payment)
    (hamount : payment'.amount = payment.amount) (hid : payment'.id = payment.id)
    (horder : payment'.razorpayOrderId = payment.razorpayOrderId) : WebhookFrame s s' := by
  have hframe : WebhookFrame s (s.setPayment payment') :=
    .setPayment hpayment hamount hid horder
  simp only [updateRun, List.mem_cons, List.not_mem_nil, or_false] at hs'
  rcases hs' with rfl | rfl
  · exact hframe
  · exact ⟨hframe.booking, hframe.amount, hframe.orderRef, hframe.gatewayRefunds, hframe.wallet,
      hframe.refunds, hframe.rows⟩

theorem captureTransaction_frame {payment : Payment} {paymentId : String}
    (hpayment : s.payment = some payment) (h : captureTransaction s payment paymentId = .ok s') :
    WebhookFrame s s' := by
  obtain ⟨ledger, receipt, -, rfl⟩ := recordPaymentLedgerJournal_eq_ok h
  refine ⟨rfl, ?_, ?_, rfl, rfl, rfl, fun _ => rfl⟩
  · rw [hpayment]
    rfl
  · rw [Checkout.orderRef, Checkout.orderRef, hpayment]
    rfl

theorem vendorDepositRun_frame {orderId : OrderId} {paymentId : String}
    (hs' : s' ∈ (vendorDepositRun s orderId paymentId).1) : WebhookFrame s s' := by
  unfold vendorDepositRun at hs'
  split at hs'
  · cases hs'
  split at hs'
  · simp only at hs'
    split at hs'
    · cases hs'
    · rw [List.mem_singleton] at hs'
      subst hs'
      exact ⟨rfl, rfl, rfl, rfl, rfl, rfl, fun _ => rfl⟩
  · cases hs'

theorem capturedRun_frame {eventId : String} {orderId : OrderId} {paymentId : String}
    {amount : Option ℤ} {currency : Option String}
    (hs' : s' ∈ (capturedRun s eventId orderId paymentId amount currency).1) :
    WebhookFrame s s' := by
  unfold capturedRun at hs'
  split at hs'
  · exact vendorDepositRun_frame hs'
  next payment hfound =>
    obtain ⟨hpayment, -⟩ := Option.filter_eq_some_iff.mp hfound
    split at hs'
    · cases hs'
    split at hs'
    · cases hs'
    split at hs'
    · rw [List.mem_singleton] at hs'
      subst hs'
      exact (WebhookFrame.refl s).markProcessed eventId
    split at hs'
    · cases hs'
    next captured htransaction =>
      have hframe : WebhookFrame s captured := captureTransaction_frame hpayment htransaction
      simp only [List.mem_cons, List.not_mem_nil, or_false] at hs'
      rcases hs' with rfl | rfl
      · exact hframe
      · exact hframe.markProcessed eventId

theorem webhookRun_frame {eventId : String} {event : WebhookEvent}
    (hs' : s' ∈ (webhookRun s eventId event).1) : WebhookFrame s s' := by
  cases event with
  | paymentCaptured orderId paymentId amount currency =>
    cases orderId with
    | none => cases hs'
    | some orderId => exact capturedRun_frame hs'
  | paymentFailed orderId paymentId =>
    simp only [webhookRun, failedRun] at hs'
    split at hs'
    · cases hs'
    next payment hfound =>
      split at hs'
      · cases hs'
      · exact updateRun_frame hs' (Option.filter_eq_some_iff.mp hfound).1 rfl rfl rfl
  | paymentAuthorized orderId paymentId =>
    simp only [webhookRun, authorizedRun] at hs'
    split at hs'
    · cases hs'
    next payment hfound =>
      split at hs'
      · exact updateRun_frame hs' (Option.filter_eq_some_iff.mp hfound).1 rfl rfl rfl
      · cases hs'
  | refundProcessed refundId paymentId amountPaise =>
    simp only [webhookRun, refundProcessedRun] at hs'
    split at hs'
    · cases hs'
    next payment hfound =>
      split at hs'
      · cases hs'
      · exact updateRun_frame hs' (Option.filter_eq_some_iff.mp hfound).1 rfl rfl rfl
  | refundCreated refundId paymentId amountPaise =>
    simp only [webhookRun, refundCreatedRun] at hs'
    split at hs'
    · cases hs'
    next payment hfound =>
      split at hs'
      · cases hs'
      · exact updateRun_frame hs' (Option.filter_eq_some_iff.mp hfound).1 rfl rfl rfl
  | refundFailed refundId paymentId =>
    simp only [webhookRun, refundFailedRun] at hs'
    split at hs'
    · cases hs'
    next payment hfound =>
      rw [List.mem_singleton] at hs'
      subst hs'
      exact .setPayment (Option.filter_eq_some_iff.mp hfound).1 rfl rfl rfl
  | ignored => cases hs'

theorem webhookRun_getLastD_frame (s : Checkout) (eventId : String) (event : WebhookEvent) :
    WebhookFrame s ((webhookRun s eventId event).1.getLastD s) := by
  rcases List.mem_cons.mp (List.getLastD_mem_cons (l := (webhookRun s eventId event).1) (a := s))
    with hlast | hmem
  · rw [hlast]
    exact WebhookFrame.refl s
  · exact webhookRun_frame hmem

end Frame

/-! ## The capture of an unpaid payment -/

section Capture

variable {s s' : Checkout} {payment : Payment} {paymentId : String}

def captureJournalAccepted (s : Checkout) (payment : Payment) : Bool :=
  (recordJournal s.ledger (paymentJournal s.booking payment s.depositAmount s.totalExpected
    s.totalExpected 0 false)).isOk

theorem captureTransaction_isOk :
    (captureTransaction s payment paymentId).isOk = captureJournalAccepted s payment := by
  unfold captureTransaction
  rw [recordPaymentLedgerJournal_isOk]
  rfl

theorem captureTransaction_eq_ok (h : captureTransaction s payment paymentId = .ok s') :
    s'.payment = some { payment with status := .paid, razorpayPaymentId := some paymentId } ∧
      s'.booking = s.booking ∧ s'.securityDeposit = s.securityDeposit ∧ s'.wallet = s.wallet ∧
      s'.coupon = s.coupon ∧ s'.couponUsages = s.couponUsages := by
  obtain ⟨ledger, receipt, -, rfl⟩ := recordPaymentLedgerJournal_eq_ok h
  exact ⟨rfl, rfl, rfl, rfl, rfl, rfl⟩

theorem handleWebhook_captured {eventId : String} {orderId : OrderId} {amount : Option ℤ}
    {currency : Option String} (hpayment : s.payment = some payment)
    (hunpaid : payment.status ≠ .paid) (hfresh : eventRecorded s eventId = false)
    (hmatch : payment.matchesCapture orderId paymentId = true)
    (hinr : currencyIsInr currency = true) :
    (handleWebhook s eventId (.paymentCaptured (some orderId) paymentId amount currency)).1 =
      if captureAmountMatches payment amount then
        match captureTransaction (recordEvent s eventId) payment paymentId with
        | .ok s' => markProcessed s' eventId
        | .error _ => recordEvent s eventId
      else recordEvent s eventId := by
  have hrow : (recordEvent s eventId).payment = some payment := hpayment
  unfold handleWebhook
  rw [hfresh, if_neg Bool.false_ne_true]
  simp only [webhookRun, capturedRun, hrow, Option.filter_some, hmatch, hinr, if_true,
    Bool.not_true, Bool.false_eq_true, if_false]
  cases captureAmountMatches payment amount with
  | false => rfl
  | true =>
    simp only [Bool.not_true, Bool.false_eq_true, if_false, hunpaid, if_true]
    cases captureTransaction (recordEvent s eventId) payment paymentId <;> rfl

end Capture

end CarRental
