import CarRental.Payments.Reconciliation
import CarRental.Payments.Refund
import CarRental.Payments.Webhook

/-!
# Capturing exactly what was ordered

`createOrder` asks the gateway for what the wallet leaves of the total, but it
stores the whole total on the payment row.  The webhook compares the captured
amount with that row, and the reconciliation compares it with the booking's total,
so neither accepts the capture of an order that the wallet has a share in.

## Strategy

After `createOrder_eq_ok` the state is known up to the order's row.  Both paths find
the row, and the amount they compare with is the total; the captured amount is the
total minus the wallet's share.
-/

namespace CarRental

/-- The payment is paid, and what the gateway captured and what the wallet was debited
for the booking add up to fare and deposit. -/
def CaptureSettled (s : Checkout) (capturedPaise : ℤ) : Prop :=
  s.paymentStatus = some .paid ∧ capturedPaise + totalWalletPaid s = s.totalExpected

instance (s : Checkout) (capturedPaise : ℤ) : Decidable (CaptureSettled s capturedPaise) :=
  inferInstanceAs (Decidable (_ ∧ _))

section Capture

variable {s : Checkout} {payment : Payment} {eventId paymentId : String} {orderId : OrderId}
  {capturedPaise : ℤ}

theorem handleWebhook_capture (hpayment : s.payment = some payment)
    (hcreated : payment.status = .created) (horder : payment.razorpayOrderId = some orderId)
    (hfresh : eventRecorded s eventId = false) (hpositive : 0 < capturedPaise) :
    CaptureSettled (handleWebhook s eventId
        (.paymentCaptured (some orderId) paymentId (some capturedPaise) (some "INR"))).1
        capturedPaise ↔
      capturedPaise = payment.amount.paise ∧ captureJournalAccepted s payment = true ∧
        capturedPaise + totalWalletPaid s = s.totalExpected := by
  have hmatch : payment.matchesCapture orderId paymentId = true := by
    simp [Payment.matchesCapture, horder]
  have hinr : currencyIsInr (some "INR") = true := by decide +kernel
  have hamount : captureAmountMatches payment (some capturedPaise) = true ↔
      capturedPaise = payment.amount.paise := by
    simp [captureAmountMatches, hpositive.ne']
  have hunpaid : (recordEvent s eventId).paymentStatus ≠ some .paid := by
    rw [Checkout.paymentStatus_eq (s := recordEvent s eventId) hpayment, hcreated]
    decide
  have hrefused : ¬ CaptureSettled (recordEvent s eventId) capturedPaise := fun h => hunpaid h.1
  rw [handleWebhook_captured hpayment (by rw [hcreated]; decide) hfresh hmatch hinr, ← hamount]
  cases captureAmountMatches payment (some capturedPaise) with
  | false => simpa using hrefused
  | true =>
    have haccepted : (captureTransaction (recordEvent s eventId) payment paymentId).isOk =
        captureJournalAccepted s payment := captureTransaction_isOk
    rw [if_pos rfl]
    cases htx : captureTransaction (recordEvent s eventId) payment paymentId with
    | error e =>
      rw [htx] at haccepted
      simp [← haccepted, Except.isOk, Except.toBool, hrefused]
    | ok s' =>
      obtain ⟨hpaid, hbooking, hdeposit, hwallet, -⟩ := captureTransaction_eq_ok htx
      have hstatus : (markProcessed s' eventId).paymentStatus = some .paid :=
        Checkout.paymentStatus_eq hpaid
      have htotal : (markProcessed s' eventId).totalExpected = s.totalExpected :=
        Checkout.totalExpected_congr (congrArg Booking.totalFare hbooking) hdeposit
      have hdebits : totalWalletPaid (markProcessed s' eventId) = totalWalletPaid s :=
        totalWalletPaid_congr (congrArg Booking.id hbooking) hwallet
      rw [htx] at haccepted
      simp [← haccepted, Except.isOk, Except.toBool, CaptureSettled, hstatus, htotal, hdebits]

theorem reconcileCandidate_capture {config : PaymentConfig} (hpayment : s.payment = some payment)
    (hcreated : payment.status = .created) (horder : payment.razorpayOrderId = some orderId)
    (hpending : s.booking.status = .pending) :
    CaptureSettled (reconcileCandidate config s true true
        (some [⟨paymentId, some orderId, some "INR", .captured, capturedPaise⟩])).1 capturedPaise ↔
      config.useMock = false ∧ capturedPaise = s.totalExpected ∧
        ((reconcileCoupon s).isOk && reconciliationJournalAccepted s payment) = true ∧
        capturedPaise + totalWalletPaid s = s.totalExpected := by
  have hunpaid : s.paymentStatus ≠ some .paid := by
    rw [Checkout.paymentStatus_eq hpayment, hcreated]
    decide
  have hrefused : ¬ CaptureSettled s capturedPaise := fun h => hunpaid h.1
  cases hmock : config.useMock with
  | true =>
    have hskipped : ∀ items, (reconcileCandidate config s true true items).1 = s := by
      intro items
      simp [reconcileCandidate, hpayment, isCandidate, hcreated, horder, hpending, hmock]
    rw [hskipped]
    simpa using hrefused
  | false =>
    rw [reconcileCandidate_captured hmock hpayment hcreated horder hpending rfl rfl
      (by decide +kernel : currencyIsInr (some "INR") = true), ← reconcileTransaction_isOk]
    by_cases hamount : capturedPaise = s.totalExpected
    case neg => simp [hamount, hrefused]
    rw [if_pos hamount]
    cases htx : reconcileTransaction s payment
        ⟨paymentId, some orderId, some "INR", .captured, capturedPaise⟩ with
    | error e => simp [Except.isOk, Except.toBool, hrefused]
    | ok s' =>
      obtain ⟨hpaid, hbooking, hdeposit, hwallet⟩ := reconcileTransaction_eq_ok htx
      have hstatus : s'.paymentStatus = some .paid := Checkout.paymentStatus_eq hpaid
      have htotal : s'.totalExpected = s.totalExpected :=
        Checkout.totalExpected_congr (by rw [hbooking]) hdeposit
      have hdebits : totalWalletPaid s' = totalWalletPaid s :=
        totalWalletPaid_congr (by rw [hbooking]) hwallet
      simp [Except.isOk, Except.toBool, CaptureSettled, hstatus, htotal, hdebits, hamount]

end Capture

/-! ## After an order -/

section Order

variable {config : PaymentConfig} {s s' : Checkout} {customerId newPaymentId : Id}
  {useWallet : Bool} {gatewayOrder : Option String} {nonce : String} {reply : OrderReply}

theorem createOrder_gateway
    (h : createOrder config s customerId useWallet newPaymentId gatewayOrder nonce =
      (s', .ok reply))
    (hgateway : reply.isFullWallet = false) :
    0 < reply.amount ∧ (reply.amount = s'.totalExpected ↔ walletShare s useWallet = 0) ∧
      s'.booking.status = .pending ∧ totalWalletPaid s' = totalWalletPaid s ∧
      s'.webhookEvents = s.webhookEvents ∧
      ∃ payment, s'.payment = some payment ∧ payment.status = .created ∧
        payment.razorpayOrderId = some reply.orderId ∧
        payment.amount.paise = s'.totalExpected := by
  obtain ⟨hpending, hamount, hfull, amount, entry, hstored, rfl⟩ := createOrder_eq_ok h
  obtain ⟨hcreated, horder, hrow⟩ :=
    orderedPayment_eq s.payment newPaymentId reply.orderId amount
  have htotal : ((s.setPayment (orderedPayment s.payment newPaymentId reply.orderId amount)).audit
      entry).totalExpected = s.totalExpected := rfl
  have hleft : 0 < s.totalExpected - walletShare s useWallet := by
    rw [hgateway] at hfull
    exact not_le.mp (of_decide_eq_false hfull.symm)
  rw [max_eq_left hleft.le] at hamount
  refine ⟨by omega, by omega, hpending, rfl, rfl, _, rfl, hcreated, horder, ?_⟩
  rw [hrow, hstored, htotal]

/-- **When a captured order is settled.**  The gateway captures exactly the amount that
`createOrder` returned for its order.  The capture event settles the payment exactly
when the wallet has no part in it and the ledger takes the journal; the
reconciliation, when moreover the gateway is live and the coupon can be redeemed. -/
theorem order_capture_settled_iff (eventId paymentId : String)
    (h : createOrder config s customerId useWallet newPaymentId gatewayOrder nonce =
      (s', .ok reply))
    (hgateway : reply.isFullWallet = false) (hfresh : eventRecorded s eventId = false) :
    (CaptureSettled (handleWebhook s' eventId
          (.paymentCaptured (some reply.orderId) paymentId (some reply.amount) (some "INR"))).1
          reply.amount ↔
        (walletShare s useWallet = 0 ∧ totalWalletPaid s = 0) ∧
          ∀ payment ∈ s'.payment, captureJournalAccepted s' payment = true) ∧
      (CaptureSettled (reconcileCandidate config s' true true
          (some [⟨paymentId, some reply.orderId, some "INR", .captured, reply.amount⟩])).1
          reply.amount ↔
        (walletShare s useWallet = 0 ∧ totalWalletPaid s = 0) ∧ config.useMock = false ∧
          (reconcileCoupon s').isOk = true ∧
          ∀ payment ∈ s'.payment, reconciliationJournalAccepted s' payment = true) := by
  obtain ⟨hpositive, hshare, hpending, hdebits, hevents, payment, hpayment, hcreated, horder,
    hamount⟩ := createOrder_gateway h hgateway
  have hfresh' : eventRecorded s' eventId = false := by
    rw [eventRecorded, hevents]
    exact hfresh
  have hsplit : reply.amount = s'.totalExpected ∧
        reply.amount + totalWalletPaid s' = s'.totalExpected ↔
      walletShare s useWallet = 0 ∧ totalWalletPaid s = 0 := by
    rw [← hshare, hdebits]
    constructor <;> rintro ⟨htotal, h⟩ <;> exact ⟨htotal, by omega⟩
  constructor
  · rw [handleWebhook_capture hpayment hcreated horder hfresh' hpositive, hamount, ← hsplit]
    simp only [hpayment, Option.mem_def, Option.some.injEq, forall_eq']
    tauto
  · rw [reconcileCandidate_capture hpayment hcreated horder hpending, ← hsplit]
    simp only [hpayment, Option.mem_def, Option.some.injEq, forall_eq', Bool.and_eq_true]
    tauto

def walletCheckout : Checkout :=
  { sampleCheckout with payment := none, wallet := ⟨.active, 10000, 10000, 0, []⟩ }

/-- Without the wallet the order of 1118.00 is settled by both paths. -/
theorem order_capture_settled_whole :
    (createOrder liveConfig walletCheckout "customer" false "payment" (some "order") "").2.toOption.map
        OrderReply.amount = some 111800 ∧
      let s' := (createOrder liveConfig walletCheckout "customer" false "payment" (some "order") "").1
      CaptureSettled (handleWebhook s' "event" (.paymentCaptured (some (.gateway "order")) "pay"
          (some 111800) (some "INR"))).1 111800 ∧
        CaptureSettled (reconcileCandidate liveConfig s' true true
          (some [⟨"pay", some (.gateway "order"), some "INR", .captured, 111800⟩])).1 111800 := by
  have horder : createOrder liveConfig walletCheckout "customer" false "payment" (some "order") "" =
      ((createOrder liveConfig walletCheckout "customer" false "payment" (some "order") "").1,
        .ok ⟨.gateway "order", 111800, false, 111800, 0, 0, 0, 111800⟩) := rfl
  obtain ⟨hevent, hreconciled⟩ := order_capture_settled_iff "event" "pay" horder rfl rfl
  exact ⟨by decide +kernel, hevent.mpr (by decide +kernel), hreconciled.mpr (by decide +kernel)⟩

/-- With the wallet the order is for 1018.00, and neither path accepts its capture. -/
theorem split_order_unsettled :
    (createOrder liveConfig walletCheckout "customer" true "payment" (some "order") "").2.toOption.map
        (fun reply => (reply.orderId, reply.isFullWallet, reply.amount)) =
          some (.gateway "order", false, 101800) ∧
      let s' := (createOrder liveConfig walletCheckout "customer" true "payment" (some "order") "").1
      ¬ CaptureSettled (handleWebhook s' "event" (.paymentCaptured (some (.gateway "order")) "pay"
          (some 101800) (some "INR"))).1 101800 ∧
        ¬ CaptureSettled (reconcileCandidate liveConfig s' true true
          (some [⟨"pay", some (.gateway "order"), some "INR", .captured, 101800⟩])).1 101800 := by
  decide +kernel

end Order

end CarRental
