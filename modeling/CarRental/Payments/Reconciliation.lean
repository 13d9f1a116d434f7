import CarRental.Payments.Orders

/-!
# Reconciliation of unconfirmed paid bookings

`FinancialReconciliationService.reconcileUnconfirmedPaidBookings` looks for old
orders of pending bookings whose payment the gateway has captured, and confirms
payment and booking itself.

`reconcileCandidate` is the loop's body for one candidate.  That the record lock is
acquired and what the gateway lists for the order are arguments.
-/

namespace CarRental

/-- What the body of the loop counts a candidate as. -/
inductive ReconciliationOutcome where
  | notCandidate
  | skipped
  | error
  | healed
deriving DecidableEq

def isCandidate (s : Checkout) (payment : Payment) (oldEnough : Bool) : Bool :=
  payment.status = .created && payment.razorpayOrderId.isSome && s.booking.status = .pending &&
    oldEnough

def capturedPayment (orderId : OrderId) (items : List GatewayPayment) : Option GatewayPayment :=
  items.find? fun payment => payment.status = .captured ∧ payment.orderId = some orderId

/-- The coupon and its usages after the reconciliation redeems it where that is still
possible; otherwise as they were. -/
def couponAfterReconciliation (booking : Booking) (coupon : Option Coupon)
    (couponUsages : List CouponUsage) : Except HttpError (Option Coupon × List CouponUsage) :=
  match booking.couponId, coupon with
  | some couponId, some row =>
    let customerUsageCount := (couponUsages.filter fun usage =>
      usage.couponId = couponId ∧ usage.customerId = booking.customerId).length
    if couponUsages.any fun usage => usage.bookingId = booking.id then .ok (coupon, couponUsages)
    else if row.isActive ∧ row.globalUsageLimit.all (row.usageCount < ·) ∧
        customerUsageCount < row.perCustomerLimit.getD 1 then
      match booking.discountAmount with
      | none => .error (.internal "discountAmount is null")
      | some discountAmount =>
        .ok (some { row with usageCount := row.usageCount + 1 },
          couponUsages ++ [⟨couponId, booking.customerId, booking.id, discountAmount⟩])
    else .ok (coupon, couponUsages)
  | _, _ => .ok (coupon, couponUsages)

def reconcileCoupon (s : Checkout) : Except HttpError Checkout :=
  (couponAfterReconciliation s.booking s.coupon s.couponUsages).map fun (coupon, couponUsages) =>
    { s with coupon, couponUsages }

/-- The journal of a reconciled payment: the whole total through the gateway. -/
def reconciliationJournal (booking : Booking) (payment : Payment) (deposit totalExpected : ℤ) :
    RecordJournalInput JournalKey :=
  paiseJournal (.payVerify booking.id) (some booking.vendorId)
    (⟨.gatewayClearing, some payment.gatewayProvider, .debit, totalExpected⟩ ::
      revenueLines booking deposit totalExpected)

/-- The transaction that confirms payment and booking. -/
def reconcileTransaction (s : Checkout) (payment : Payment) (captured : GatewayPayment) :
    Except HttpError Checkout := do
  let totalExpected := s.totalExpected
  let s := s.setPayment { payment with status := .paid, razorpayPaymentId := some captured.id }
  let s ← reconcileCoupon s
  let s := { s with booking := { s.booking with status := .confirmed } }
  match recordJournal s.ledger
      (reconciliationJournal s.booking payment s.depositAmount totalExpected) with
  | .ok (ledger, _) => return { s with ledger }
  | .error _ => throw (.badRequest "Ledger journal refused.")

def reconcileCandidate (config : PaymentConfig) (s : Checkout) (oldEnough lockAcquired : Bool)
    (orderPayments : Option (List GatewayPayment)) : Checkout × ReconciliationOutcome :=
  match s.payment with
  | none => (s, .notCandidate)
  | some payment =>
    if !isCandidate s payment oldEnough then (s, .notCandidate)
    else if !lockAcquired then (s, .skipped)
    else if config.useMock then (s, .skipped)
    else
      match orderPayments, payment.razorpayOrderId with
      | some items, some orderId =>
        match capturedPayment orderId items with
        | none => (s, .skipped)
        | some captured =>
          if !currencyIsInr captured.currency then (s, .error)
          else if captured.amount ≠ s.totalExpected then (s, .error)
          else
            match reconcileTransaction s payment captured with
            | .ok s' => (s', .healed)
            | .error _ => (s, .error)
      | _, _ => (s, .error)

/-! ## What the transaction does -/

section Transaction

variable {s s' : Checkout} {payment : Payment} {captured : GatewayPayment}

def reconciliationJournalAccepted (s : Checkout) (payment : Payment) : Bool :=
  (recordJournal s.ledger
    (reconciliationJournal s.booking payment s.depositAmount s.totalExpected)).isOk

theorem reconcileCoupon_setPayment :
    reconcileCoupon (s.setPayment payment) =
      (reconcileCoupon s).map fun s => s.setPayment payment := by
  simp only [reconcileCoupon, Checkout.setPayment]
  cases couponAfterReconciliation s.booking s.coupon s.couponUsages <;> rfl

theorem reconcileCoupon_eq_ok (h : reconcileCoupon s = .ok s') :
    ∃ coupon couponUsages, s' = { s with coupon, couponUsages } :=
  exists_of_map_coupon h

theorem reconcileCoupon_isOk :
    (reconcileCoupon s).isOk =
      (couponAfterReconciliation s.booking s.coupon s.couponUsages).isOk := by
  unfold reconcileCoupon
  cases couponAfterReconciliation s.booking s.coupon s.couponUsages <;> rfl

theorem reconcileTransaction_isOk :
    (reconcileTransaction s payment captured).isOk =
      ((reconcileCoupon s).isOk && reconciliationJournalAccepted s payment) := by
  unfold reconcileTransaction
  simp only [bind, reconcileCoupon_setPayment]
  cases hcoupon : reconcileCoupon s with
  | error e => rfl
  | ok s₁ =>
    obtain ⟨coupon, couponUsages, rfl⟩ := reconcileCoupon_eq_ok hcoupon
    simp only [Except.map, Except.bind, Except.isOk, Except.toBool, Bool.true_and,
      reconciliationJournalAccepted]
    show Except.toBool (match recordJournal s.ledger (reconciliationJournal s.booking payment
      s.depositAmount s.totalExpected) with | .ok (ledger, _) => _ | .error _ => _) = _
    cases recordJournal s.ledger (reconciliationJournal s.booking payment s.depositAmount
      s.totalExpected) <;> rfl

theorem reconcileTransaction_eq_ok (h : reconcileTransaction s payment captured = .ok s') :
    s'.payment = some { payment with status := .paid, razorpayPaymentId := some captured.id } ∧
      s'.booking = { s.booking with status := .confirmed } ∧
      s'.securityDeposit = s.securityDeposit ∧ s'.wallet = s.wallet := by
  simp only [reconcileTransaction, bind, bind_eq_ok] at h
  obtain ⟨s₁, hcoupon, h⟩ := h
  obtain ⟨coupon, couponUsages, rfl⟩ := reconcileCoupon_eq_ok hcoupon
  split at h
  · cases h
    exact ⟨rfl, rfl, rfl, rfl⟩
  · cases h

theorem reconcileCandidate_refused {config : PaymentConfig} {orderId : OrderId}
    (hpayment : s.payment = some payment) (hcapturedOrder : captured.orderId = some orderId)
    (hrefused : ¬ (config.useMock = false ∧ s.booking.status = .pending ∧
      payment.status = .created ∧ payment.razorpayOrderId = some orderId)) :
    (reconcileCandidate config s true true (some [captured])).1 = s := by
  unfold reconcileCandidate
  simp only [hpayment]
  split
  · rfl
  next hcandidate =>
    split
    · rfl
    split
    · rfl
    next hlive =>
      split
      next items rowOrder hitems hrow =>
        cases hitems
        -- the row's order is another one, so no listed payment is found for it
        have hother : captured.orderId ≠ some rowOrder := by
          intro hsame
          rw [hcapturedOrder] at hsame
          cases hsame
          simp only [isCandidate, Bool.not_eq_true', Bool.not_eq_false, Bool.and_eq_true,
            decide_eq_true_eq] at hcandidate
          exact hrefused ⟨by simpa using hlive, hcandidate.1.2, hcandidate.1.1.1, hrow⟩
        have hmissing : capturedPayment rowOrder [captured] = none := by
          simp [capturedPayment, hother]
        rw [hmissing]
      · rfl

theorem reconcileCandidate_captured {config : PaymentConfig} {orderId : OrderId}
    (hmock : config.useMock = false) (hpayment : s.payment = some payment)
    (hcreated : payment.status = .created) (horder : payment.razorpayOrderId = some orderId)
    (hpending : s.booking.status = .pending) (hcaptured : captured.status = .captured)
    (hcapturedOrder : captured.orderId = some orderId)
    (hinr : currencyIsInr captured.currency = true) :
    (reconcileCandidate config s true true (some [captured])).1 =
      if captured.amount = s.totalExpected then
        match reconcileTransaction s payment captured with
        | .ok s' => s'
        | .error _ => s
      else s := by
  have hfound : capturedPayment orderId [captured] = some captured := by
    simp [capturedPayment, hcaptured, hcapturedOrder]
  unfold reconcileCandidate
  simp only [hpayment, isCandidate, hcreated, horder, hpending, hmock, hfound, hinr, decide_true,
    Option.isSome_some, Bool.and_self, Bool.not_true, Bool.false_eq_true, if_false, ne_eq]
  by_cases hamount : captured.amount = s.totalExpected
  · simp only [hamount, not_true_eq_false, if_false, if_true]
    cases reconcileTransaction s payment captured <;> rfl
  · simp only [hamount, not_false_eq_true, if_true, if_false]

end Transaction

end CarRental
