import CarRental.Payments.PaymentJournal

/-!
# Orders and their verification

`PaymentsService.createOrder` opens or renews the order of a pending booking, for
the whole total or for what the wallet leaves of it.  `verifyPayment` settles the
wallet's part, marks the payment as paid, holds the deposit, books the journal and
redeems the coupon, in one transaction.

What the gateway answers is an argument: the order id it gives (`gatewayOrder`),
whether the checkout signature is valid, and the payment it returns when asked for
it.  Calls are those for the booking of the state; calls for other bookings do not
touch it.
-/

namespace CarRental

/-! ## The gateway -/

inductive GatewayPaymentStatus where
  | created
  | authorized
  | captured
  | refunded
  | failed
deriving DecidableEq, Repr

structure GatewayPayment where
  id : String
  orderId : Option OrderId
  currency : Option String
  status : GatewayPaymentStatus
  amount : ℤ
deriving DecidableEq

inductive PaymentFetch where
  | error (message : String)
  | missing
  | found (payment : GatewayPayment)
deriving DecidableEq

/-- A currency that is given must be `INR`, in any case. -/
def currencyIsInr (currency : Option String) : Bool :=
  currency.all fun name => name.toUpper = "INR"

/-! ## Creating an order -/

structure OrderReply where
  orderId : OrderId
  amount : ℤ
  isFullWallet : Bool
  totalAmount : ℤ
  walletApplied : ℤ
  promoApplied : ℤ
  realApplied : ℤ
  gatewayAmount : ℤ
deriving DecidableEq

/-- The booking's total is at least five paise away from the accepted quote's. -/
def quoteMismatch (booking : Booking) (totalAmount : ℤ) : Bool :=
  booking.quoteTotal.any fun quoteTotal => 5 ≤ |quoteTotal.paise - totalAmount|

/-- The part of the total that the wallet pays. -/
def walletShare (s : Checkout) (useWallet : Bool) : ℤ :=
  if useWallet ∧ s.wallet.status = .active ∧ 0 < s.wallet.availableBalance then
    min s.wallet.availableBalance s.totalExpected
  else 0

/-- The order for what the wallet leaves, unless the gateway refuses to create it. -/
def orderFor (config : PaymentConfig) (s : Checkout) (walletApplied : ℤ)
    (gatewayOrder : Option String) (nonce : String) : Option OrderId :=
  if s.totalExpected - walletApplied ≤ 0 then some (.walletFull s.booking.id)
  else if config.useMock then
    some (if 0 < walletApplied then .mockSplit walletApplied nonce else .mock nonce)
  else gatewayOrder.map .gateway

def orderedPayment (existing : Option Payment) (newPaymentId : Id) (orderId : OrderId)
    (amount : Money) : Payment :=
  match existing with
  | some payment => { payment with razorpayOrderId := some orderId, amount, status := .created }
  | none =>
    { id := newPaymentId
      razorpayOrderId := some orderId
      razorpayPaymentId := none
      razorpayRefundId := none
      amount
      refundAmount := none
      status := .created
      refundStatus := .none
      gatewayProvider := "RAZORPAY"
      paymentMethod := none }

def createOrder (config : PaymentConfig) (s : Checkout) (customerId : Id) (useWallet : Bool)
    (newPaymentId : Id) (gatewayOrder : Option String) (nonce : String) :
    CheckoutReply OrderReply :=
  if s.booking.customerId ≠ customerId then
    (s, .error (.forbidden "Access denied: You can only pay for your own bookings."))
  else if s.booking.status ≠ .pending then
    (s, .error (.badRequest "Only pending bookings can be paid for."))
  else if s.paymentStatus = some .paid ∨ s.paymentStatus = some .refunded then
    (s, .error (.conflict "This booking has already been paid for."))
  else if quoteMismatch s.booking s.totalExpected then
    (s, .error (.conflict "Payment amount mismatch"))
  else
    let walletApplied := walletShare s useWallet
    let promoApplied := min s.wallet.promoBalance walletApplied
    let gatewayAmount := s.totalExpected - walletApplied
    match orderFor config s walletApplied gatewayOrder nonce with
    | none =>
      (s, .error (.badRequest "Failed to create payment order with Razorpay. Try again."))
    | some orderId =>
      match Column.ofPaise? s.totalExpected with
      | none => (s, .error (.internal "numeric field overflow"))
      | some amount =>
        let s' := (s.setPayment (orderedPayment s.payment newPaymentId orderId amount)).audit
          { eventType := if s.payment.isSome then "PAYMENT_ORDER_RENEWED"
              else "PAYMENT_ORDER_CREATED"
            fromStatus := s.paymentStatus
            toStatus := .created
            amount := some s.totalExpected
            gatewayReference := none
            source := "CUSTOMER" }
        (s', .ok {
          orderId
          amount := max gatewayAmount 0
          isFullWallet := gatewayAmount ≤ 0
          totalAmount := s.totalExpected
          walletApplied
          promoApplied
          realApplied := walletApplied - promoApplied
          gatewayAmount })

theorem createOrder_eq_ok {config : PaymentConfig} {s s' : Checkout} {customerId : Id}
    {useWallet : Bool} {newPaymentId : Id} {gatewayOrder : Option String} {nonce : String}
    {reply : OrderReply}
    (h : createOrder config s customerId useWallet newPaymentId gatewayOrder nonce =
      (s', .ok reply)) :
    s.booking.status = .pending ∧
      reply.amount = max (s.totalExpected - walletShare s useWallet) 0 ∧
      reply.isFullWallet = decide (s.totalExpected - walletShare s useWallet ≤ 0) ∧
      ∃ (amount : Money) (entry : PaymentAuditEntry),
        amount.paise = s.totalExpected ∧
        s' = (s.setPayment (orderedPayment s.payment newPaymentId reply.orderId amount)).audit
          entry := by
  unfold createOrder at h
  split at h
  · cases h
  split at h
  · cases h
  next hpending =>
    split at h
    · cases h
    split at h
    · cases h
    simp only at h
    split at h
    · cases h
    next orderId _ =>
      split at h
      · cases h
      next amount hamount =>
        cases h
        exact ⟨not_not.mp hpending, rfl, rfl, amount, _, Column.ofPaise?_eq_some.mp hamount, rfl⟩

theorem orderedPayment_eq (existing : Option Payment) (newPaymentId : Id) (orderId : OrderId)
    (amount : Money) :
    (orderedPayment existing newPaymentId orderId amount).status = .created ∧
      (orderedPayment existing newPaymentId orderId amount).razorpayOrderId = some orderId ∧
      (orderedPayment existing newPaymentId orderId amount).amount = amount := by
  cases existing with
  | none => exact ⟨rfl, rfl, rfl⟩
  | some payment => exact ⟨rfl, rfl, rfl⟩

/-! ## Verifying a payment -/

structure VerifyPaymentDto where
  razorpayOrderId : OrderId
  razorpayPaymentId : String
  razorpaySignature : String
deriving DecidableEq

/-- How much the gateway has captured and how much the wallet must add, or why
there is nothing to settle. -/
inductive Settlement where
  | settled (gatewayPaid walletRequired : ℤ)
  | failedAtGateway
  | refused (error : HttpError)
deriving DecidableEq

/-- The checks on the payment that the gateway returns. -/
def fetchedSettlement (orderId : OrderId) (totalExpected : ℤ) : PaymentFetch → Settlement
  | .error _ => .refused (.badRequest "Unable to verify payment with Razorpay")
  | .missing => .refused (.badRequest "Payment record not found on Razorpay.")
  | .found payment =>
    if payment.orderId.any (· ≠ orderId) then
      .refused (.badRequest "Razorpay payment is not associated with the provided order ID.")
    else if !currencyIsInr payment.currency then
      .refused (.badRequest "Payment currency mismatch.")
    else
      match payment.status with
      | .failed => .failedAtGateway
      | .authorized => .refused (.badRequest
          "Payment is authorized but not yet captured. Please wait for payment confirmation.")
      | .created | .refunded => .refused (.badRequest "Payment status is not captured")
      | .captured =>
        if totalExpected - payment.amount < 0 then
          .refused (.badRequest "Payment amount exceeds total booking payable.")
        else .settled payment.amount (totalExpected - payment.amount)

def settlement (config : PaymentConfig) (dto : VerifyPaymentDto) (signatureValid : Bool)
    (fetch : PaymentFetch) (totalExpected : ℤ) : Settlement :=
  -- an order paid by the wallet alone has no signature
  if dto.razorpayOrderId.isWalletFull then .settled 0 totalExpected
  else if !(config.useMock && dto.razorpaySignature = "mock_signature") && !signatureValid then
    .refused (.badRequest "Invalid payment signature. Verification failed.")
  else if !config.useMock then fetchedSettlement dto.razorpayOrderId totalExpected fetch
  else
    -- the mock gateway reads the wallet's share off the order's id
    match dto.razorpayOrderId with
    | .mockSplit walletPaise _ => .settled (totalExpected - walletPaise) walletPaise
    | _ => .settled totalExpected 0

/-- The wallet's part of a payment is debited once per booking. -/
def settleWallet (config : PaymentConfig) (s : Checkout) (walletRequired : ℤ) :
    Except HttpError Checkout :=
  if walletRequired ≤ 0 then .ok s
  else if s.wallet.availableBalance < walletRequired then
    .error (.badRequest "Insufficient wallet balance to complete payment.")
  else
    match s.wallet.debitWallet config walletRequired .checkoutDebit "BOOKING" (some s.booking.id)
        ("wallet_checkout_debit_" ++ s.booking.id) with
    | .ok wallet => .ok { s with wallet }
    | .error e => .error e

/-- The coupon and its usages after the booking has redeemed it, unless the booking
already has a usage row. -/
def couponAfterRedemption (booking : Booking) (coupon : Option Coupon)
    (couponUsages : List CouponUsage) : Except HttpError (Option Coupon × List CouponUsage) :=
  match booking.couponId with
  | none => .ok (coupon, couponUsages)
  | some couponId =>
    if couponUsages.any fun usage => usage.bookingId = booking.id then .ok (coupon, couponUsages)
    else
      match coupon with
      | none => .error (.badRequest "Coupon is no longer available.")
      | some row =>
        let customerUsageCount := (couponUsages.filter fun usage =>
          usage.couponId = couponId ∧ usage.customerId = booking.customerId).length
        if !row.isActive then .error (.badRequest "Coupon is no longer available.")
        else if row.globalUsageLimit.any (· ≤ row.usageCount) then
          .error (.badRequest "Coupon global usage limit reached.")
        else if row.perCustomerLimit.getD 1 ≤ customerUsageCount then
          .error (.badRequest "You have reached the maximum redemptions for this coupon.")
        else
          match booking.discountAmount with
          | none => .error (.internal "discountAmount is null")
          | some discountAmount =>
            .ok (some { row with usageCount := row.usageCount + 1 },
              couponUsages ++ [⟨couponId, booking.customerId, booking.id, discountAmount⟩])

def redeemCoupon (s : Checkout) : Except HttpError Checkout :=
  (couponAfterRedemption s.booking s.coupon s.couponUsages).map fun (coupon, couponUsages) =>
    { s with coupon, couponUsages }

/-- The deposit is held once its payment is verified. -/
def holdDeposit (s : Checkout) (razorpayPaymentId : String) : Checkout :=
  { s with
    securityDeposit := s.securityDeposit.map fun deposit =>
      { deposit with status := .held, razorpayPaymentId := some razorpayPaymentId } }

/-- The transaction of a verification; the booking stays as it is. -/
def verifyTransaction (config : PaymentConfig) (s : Checkout) (payment : Payment)
    (dto : VerifyPaymentDto) (gatewayPaid walletRequired : ℤ) : Except HttpError Checkout := do
  let totalExpected := s.totalExpected
  let s ← settleWallet config s walletRequired
  if ¬ ValidTransition (some payment.status) .paid then
    throw (.conflict "Invalid payment transition")
  let s := s.setPayment
    { payment with status := .paid, razorpayPaymentId := some dto.razorpayPaymentId }
  let s := s.audit
    { eventType := "PAYMENT_VERIFIED"
      fromStatus := some payment.status
      toStatus := .paid
      amount := some totalExpected
      gatewayReference := some dto.razorpayPaymentId
      source := "CUSTOMER" }
  let s := holdDeposit s dto.razorpayPaymentId
  let s ← recordPaymentLedgerJournal s payment totalExpected gatewayPaid walletRequired
    dto.razorpayOrderId.isWalletFull
  redeemCoupon s

/-! The steps of the transaction each touch one part of the state. -/

section Steps

variable {config : PaymentConfig} {s s' : Checkout}

variable {walletRequired : ℤ}

theorem settleWallet_eq_ok (h : settleWallet config s walletRequired = .ok s') :
    ∃ wallet, s' = { s with wallet } := by
  unfold settleWallet at h
  split at h
  · cases h
    exact ⟨s.wallet, rfl⟩
  · split at h
    · cases h
    · split at h
      next wallet _ =>
        cases h
        exact ⟨wallet, rfl⟩
      · cases h

theorem settleWallet_isOk_congr (hwallet : s'.wallet = s.wallet)
    (hbooking : s'.booking = s.booking) :
    (settleWallet config s' walletRequired).isOk = (settleWallet config s walletRequired).isOk := by
  unfold settleWallet
  rw [hwallet, hbooking]
  split
  · rfl
  split
  · rfl
  cases s.wallet.debitWallet config walletRequired .checkoutDebit "BOOKING" (some s.booking.id)
    ("wallet_checkout_debit_" ++ s.booking.id) <;> rfl

theorem exists_of_map_coupon {after : Except HttpError (Option Coupon × List CouponUsage)}
    (h : (after.map fun (coupon, couponUsages) => { s with coupon, couponUsages }) = .ok s') :
    ∃ coupon couponUsages, s' = { s with coupon, couponUsages } := by
  cases after with
  | error e => cases h
  | ok after =>
    cases h
    exact ⟨after.1, after.2, rfl⟩

theorem redeemCoupon_eq_ok (h : redeemCoupon s = .ok s') :
    ∃ coupon couponUsages, s' = { s with coupon, couponUsages } :=
  exists_of_map_coupon h

theorem redeemCoupon_isOk :
    (redeemCoupon s).isOk = (couponAfterRedemption s.booking s.coupon s.couponUsages).isOk := by
  unfold redeemCoupon
  cases couponAfterRedemption s.booking s.coupon s.couponUsages <;> rfl

theorem holdDeposit_depositAmount (razorpayPaymentId : String) :
    (holdDeposit s razorpayPaymentId).depositAmount = s.depositAmount := by
  unfold holdDeposit Checkout.depositAmount
  cases s.securityDeposit <;> rfl

variable {payment : Payment} {dto : VerifyPaymentDto} {gatewayPaid : ℤ}

theorem verifyTransaction_isOk :
    (verifyTransaction config s payment dto gatewayPaid walletRequired).isOk = true ↔
      (settleWallet config s walletRequired).isOk = true ∧
        ValidTransition (some payment.status) .paid ∧
        (recordJournal s.ledger (paymentJournal s.booking payment s.depositAmount s.totalExpected
          gatewayPaid walletRequired dto.razorpayOrderId.isWalletFull)).isOk = true ∧
        (couponAfterRedemption s.booking s.coupon s.couponUsages).isOk = true := by
  unfold verifyTransaction
  simp only [bind]
  cases hwallet : settleWallet config s walletRequired with
  | error e => simp [Except.bind, Except.isOk, Except.toBool]
  | ok s₁ =>
    obtain ⟨wallet, rfl⟩ := settleWallet_eq_ok hwallet
    simp only [Except.bind]
    by_cases hvalid : ValidTransition (some payment.status) .paid
    case neg =>
      rw [if_pos hvalid]
      simp [hvalid, throw, throwThe, MonadExceptOf.throw, Except.isOk, Except.toBool]
    rw [if_neg (not_not.mpr hvalid)]
    set paid := holdDeposit _ dto.razorpayPaymentId with hpaid
    have haccepted : (recordPaymentLedgerJournal paid payment s.totalExpected gatewayPaid
        walletRequired dto.razorpayOrderId.isWalletFull).isOk =
        (recordJournal s.ledger (paymentJournal s.booking payment s.depositAmount
          s.totalExpected gatewayPaid walletRequired dto.razorpayOrderId.isWalletFull)).isOk := by
      rw [recordPaymentLedgerJournal_isOk, hpaid, holdDeposit_depositAmount]
      rfl
    rw [← haccepted]
    cases hjournal : recordPaymentLedgerJournal paid payment s.totalExpected gatewayPaid
        walletRequired dto.razorpayOrderId.isWalletFull with
    | error e => simp [Except.isOk, Except.toBool]
    | ok s₂ =>
      obtain ⟨ledger, receipt, -, rfl⟩ := recordPaymentLedgerJournal_eq_ok hjournal
      simp only [redeemCoupon_isOk, hvalid]
      simp [Except.isOk, Except.toBool, hpaid, holdDeposit, Checkout.audit, Checkout.setPayment]

theorem verifyTransaction_writes
    (h : verifyTransaction config s payment dto gatewayPaid walletRequired = .ok s') :
    ValidTransition (some payment.status) .paid ∧
      ∃ wallet auditLog ledger coupon couponUsages,
        s' = { holdDeposit s dto.razorpayPaymentId with
          payment := some
            { payment with status := .paid, razorpayPaymentId := some dto.razorpayPaymentId }
          wallet
          auditLog
          ledger
          coupon
          couponUsages } := by
  simp only [verifyTransaction, bind, bind_eq_ok] at h
  obtain ⟨s₁, hwallet, h⟩ := h
  obtain ⟨wallet, rfl⟩ := settleWallet_eq_ok hwallet
  split at h
  · cases h
  next hvalid =>
    simp only [bind_eq_ok] at h
    obtain ⟨s₂, hjournal, hcoupon⟩ := h
    obtain ⟨ledger, receipt, -, rfl⟩ := recordPaymentLedgerJournal_eq_ok hjournal
    obtain ⟨coupon, couponUsages, rfl⟩ := redeemCoupon_eq_ok hcoupon
    exact ⟨not_not.mp hvalid, wallet, _, ledger, coupon, couponUsages, rfl⟩

theorem verifyTransaction_eq_ok
    (h : verifyTransaction config s payment dto gatewayPaid walletRequired = .ok s') :
    ValidTransition (some payment.status) .paid ∧ s'.paymentStatus = some .paid ∧
      s'.booking = s.booking := by
  obtain ⟨hvalid, wallet, auditLog, ledger, coupon, couponUsages, rfl⟩ := verifyTransaction_writes h
  exact ⟨hvalid, rfl, rfl⟩

end Steps

structure VerifyReply where
  alreadyVerified : Bool
deriving DecidableEq

def verifyPayment (config : PaymentConfig) (s : Checkout) (customerId : Id)
    (dto : VerifyPaymentDto) (signatureValid : Bool) (fetch : PaymentFetch) :
    CheckoutReply VerifyReply :=
  if s.booking.customerId ≠ customerId then
    (s, .error (.forbidden "Access denied: You can only verify payments for your own bookings."))
  else
    match s.payment with
    | none => (s, .error (.notFound "No payment order found for this booking."))
    | some payment =>
      if payment.razorpayOrderId ≠ some dto.razorpayOrderId then
        (s, .error (.badRequest
          "Payment order mismatch: provided order ID does not match booking payment order."))
      else if payment.status = .paid then
        -- a repeated call is answered, one with another payment is refused
        if payment.razorpayPaymentId = some dto.razorpayPaymentId ∨
            payment.razorpayPaymentId = none ∨ dto.razorpayOrderId.isWalletFull then
          (s, .ok ⟨true⟩)
        else
          (s, .error (.conflict
            "This booking has already been paid with a different payment ID."))
      else if payment.status = .refunded then
        (s, .error (.badRequest
          "This payment has already been refunded and cannot be confirmed."))
      else
        match settlement config dto signatureValid fetch s.totalExpected with
        | .refused e => (s, .error e)
        | .failedAtGateway =>
          (s.setPayment
            { payment with
              status := .failed
              razorpayPaymentId := some dto.razorpayPaymentId },
            .error (.badRequest "Payment status on Razorpay is failed."))
        | .settled gatewayPaid walletRequired =>
          match verifyTransaction config s payment dto gatewayPaid walletRequired with
          | .ok s' => (s', .ok ⟨false⟩)
          | .error e => (s, .error e)

end CarRental
