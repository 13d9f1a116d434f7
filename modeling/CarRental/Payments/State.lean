import CarRental.Finance.LedgerCore
import CarRental.Http

/-!
# One booking and its money

The rows that the payment services read and write for one booking: the booking
and its deposit, the payment, the customer's wallet, the coupon, the ledger, the
refunds and the recorded webhook events; and, outside the database, the refunds
that the gateway holds.

Ids that the code builds from a prefix keep their structure: `OrderId` and
`GatewayRefundId` name the prefix instead of spelling it.
-/

namespace CarRental

/-! ## Statuses -/

inductive PaymentStatus where
  | created
  | pending
  | authorized
  | captured
  | paid
  | failed
  | cancelled
  | expired
  | partiallyRefunded
  | refunded
deriving DecidableEq, Repr

inductive RefundStatus where
  | none
  | requested
  | pending
  | processed
  | failed
  | retryable
deriving DecidableEq, Repr

inductive BookingStatus where
  | pending
  | confirmed
  | handoverReady
  | ongoing
  | returnPending
  | completed
  | cancelled
  | refundPending
  | refunded
  | disputed
  | expired
deriving DecidableEq, Repr

inductive SecurityDepositStatus where
  | required
  | held
  | refunded
  | partiallyRefunded
  | forfeited
  | cancelled
deriving DecidableEq, Repr

inductive DamageClaimStatus where
  | submitted
  | underReview
  | approved
  | partiallyApproved
  | rejected
  | settled
deriving DecidableEq, Repr

inductive WalletStatus where
  | active
  | frozen
  | closed
deriving DecidableEq, Repr

/-- Where `assertValidTransition` lets a payment go from each status. -/
def validTransitions : PaymentStatus → List PaymentStatus
  | .created | .pending => [.authorized, .captured, .paid, .failed, .cancelled, .expired]
  | .authorized => [.captured, .paid, .failed, .cancelled, .expired]
  | .captured => [.paid, .partiallyRefunded, .refunded]
  | .paid => [.partiallyRefunded, .refunded]
  | .partiallyRefunded => [.partiallyRefunded, .refunded]
  | .failed | .cancelled | .expired => [.created]
  | .refunded => []

/-- `assertValidTransition` returns; a payment that does not exist yet has no status. -/
def ValidTransition (fromStatus : Option PaymentStatus) (toStatus : PaymentStatus) : Prop :=
  match fromStatus with
  | none => toStatus = .created
  | some fromStatus => fromStatus = toStatus ∨ toStatus ∈ validTransitions fromStatus

instance (fromStatus : Option PaymentStatus) (toStatus : PaymentStatus) :
    Decidable (ValidTransition fromStatus toStatus) := by
  unfold ValidTransition
  cases fromStatus <;> infer_instance

/-! ## Ids -/

inductive OrderId where
  /-- `order_wallet_full_<bookingId>` -/
  | walletFull (bookingId : Id)
  /-- `order_mock_split_<walletPaise>_<nonce>` -/
  | mockSplit (walletPaise : ℤ) (nonce : String)
  /-- `order_mock_<nonce>` -/
  | mock (nonce : String)
  /-- An id given by the gateway. -/
  | gateway (id : String)
deriving DecidableEq

def OrderId.isWalletFull : OrderId → Bool
  | .walletFull _ => true
  | _ => false

inductive GatewayRefundId where
  /-- Given by the gateway, or drawn by the mock. -/
  | issued (id : String)
  /-- `rfnd_wlt_` and the end of the booking's id -/
  | wallet (bookingId : Id)
  /-- `COLLATERAL_RELEASED_<time>` -/
  | collateralReleased
deriving DecidableEq

/-! ## Rows -/

structure Booking where
  id : Id
  customerId : Id
  vendorId : Id
  status : BookingStatus
  totalFare : Money
  platformFee : Money
  gstAmount : Money
  netToVendor : Money
  couponId : Option Id
  discountAmount : Option Money
  /-- `totalPayable` of the accepted quote. -/
  quoteTotal : Option Money
  corporateAccountId : Option Id
deriving DecidableEq

structure SecurityDeposit where
  id : Id
  amount : Money
  deductedAmount : ℤ
  refundedAmount : ℤ
  status : SecurityDepositStatus
  razorpayPaymentId : Option String
  razorpayRefundId : Option GatewayRefundId
deriving DecidableEq

structure Payment where
  id : Id
  razorpayOrderId : Option OrderId
  razorpayPaymentId : Option String
  razorpayRefundId : Option GatewayRefundId
  amount : Money
  refundAmount : Option ℤ
  status : PaymentStatus
  refundStatus : RefundStatus
  gatewayProvider : String
  paymentMethod : Option String
deriving DecidableEq

inductive LedgerDirection where
  | credit
  | debit
deriving DecidableEq

inductive LedgerEntryType where
  | customerDeposit
  | checkoutDebit
  | bookingRefund
  | referralReward
  | loyaltyConversion
  | adminAdjustment
  | cancellationCredit
  | expiration
deriving DecidableEq

structure WalletLedgerEntry where
  type : LedgerEntryType
  direction : LedgerDirection
  amount : ℤ
  referenceType : String
  referenceId : Option Id
  idempotencyKey : String
deriving DecidableEq

structure Wallet where
  status : WalletStatus
  availableBalance : ℤ
  realBalance : ℤ
  promoBalance : ℤ
  entries : List WalletLedgerEntry
deriving DecidableEq

structure Coupon where
  id : Id
  isActive : Bool
  globalUsageLimit : Option ℕ
  perCustomerLimit : Option ℕ
  usageCount : ℕ
deriving DecidableEq

structure CouponUsage where
  couponId : Id
  customerId : Id
  bookingId : Id
  discountAmount : Money
deriving DecidableEq

structure PaymentRefund where
  idempotencyKey : String
  gatewayRefundId : Option GatewayRefundId
  requestedAmount : ℤ
  processedAmount : Option ℤ
  status : RefundStatus
deriving DecidableEq

inductive WebhookEventStatus where
  | received
  | processed
deriving DecidableEq

structure WebhookEventRow where
  eventId : String
  status : WebhookEventStatus
deriving DecidableEq

structure PaymentAuditEntry where
  eventType : String
  fromStatus : Option PaymentStatus
  toStatus : PaymentStatus
  amount : Option ℤ
  gatewayReference : Option String
  source : String
deriving DecidableEq

/-- The security deposit of a vendor, which shares the webhook with payments. -/
structure VendorSecurityDeposit where
  paid : Bool
  requiredAmount : ℤ
  paidAmount : ℤ
  providerOrderId : Option OrderId
  providerPaymentId : Option String
  /-- References and amounts of the `INITIAL_PAYMENT` ledger entries. -/
  ledger : List (String × ℤ)
deriving DecidableEq

structure GatewayRefund where
  id : String
  paise : ℤ
  status : RefundStatus
  positive : 0 < paise
deriving DecidableEq

structure Checkout where
  booking : Booking
  securityDeposit : Option SecurityDeposit
  payment : Option Payment
  wallet : Wallet
  coupon : Option Coupon
  couponUsages : List CouponUsage
  ledger : Ledger JournalKey
  refunds : List PaymentRefund
  webhookEvents : List WebhookEventRow
  auditLog : List PaymentAuditEntry
  vendorDeposit : Option VendorSecurityDeposit
  gatewayRefunds : List GatewayRefund
deriving DecidableEq

/-- What the services are configured with. -/
structure PaymentConfig where
  useMock : Bool
  /-- The master switch of `getWalletConfig`. -/
  walletEnabled : Bool
  maxWalletBalanceCap : ℤ
deriving DecidableEq

/-- What a service call leaves and what it returns. -/
abbrev CheckoutReply (R : Type) := Checkout × Except HttpError R

namespace Checkout

def depositAmount (s : Checkout) : ℤ :=
  (s.securityDeposit.map fun deposit => deposit.amount.paise).getD 0

/-- Trip fare plus security deposit, in paise. -/
def totalExpected (s : Checkout) : ℤ :=
  s.booking.totalFare.paise + s.depositAmount

def paymentStatus (s : Checkout) : Option PaymentStatus :=
  s.payment.map Payment.status

def setPayment (s : Checkout) (payment : Payment) : Checkout :=
  { s with payment := some payment }

/-- `recordPaymentAuditLog`; a failed write is only logged. -/
def audit (s : Checkout) (entry : PaymentAuditEntry) : Checkout :=
  { s with auditLog := s.auditLog ++ [entry] }

theorem paymentStatus_eq {s : Checkout} {payment : Payment} (h : s.payment = some payment) :
    s.paymentStatus = some payment.status := by
  rw [paymentStatus, h]
  rfl

theorem totalExpected_congr {s s' : Checkout}
    (hfare : s'.booking.totalFare = s.booking.totalFare)
    (hdeposit : s'.securityDeposit = s.securityDeposit) : s'.totalExpected = s.totalExpected := by
  rw [totalExpected, totalExpected, depositAmount, depositAmount, hfare, hdeposit]

@[simp] theorem setPayment_payment (s : Checkout) (payment : Payment) :
    (s.setPayment payment).payment = some payment := rfl

@[simp] theorem setPayment_paymentStatus (s : Checkout) (payment : Payment) :
    (s.setPayment payment).paymentStatus = some payment.status := rfl

@[simp] theorem audit_payment (s : Checkout) (entry : PaymentAuditEntry) :
    (s.audit entry).payment = s.payment := rfl

@[simp] theorem audit_paymentStatus (s : Checkout) (entry : PaymentAuditEntry) :
    (s.audit entry).paymentStatus = s.paymentStatus := rfl

end Checkout

/-! ## A checkout to run on -/

/-- A rental of 1000.00 with a fee of 100.00 and GST of 18.00. -/
def sampleBooking : Booking where
  id := "booking"
  customerId := "customer"
  vendorId := "vendor"
  status := .pending
  totalFare := ⟨111800, by decide⟩
  platformFee := ⟨10000, by decide⟩
  gstAmount := ⟨1800, by decide⟩
  netToVendor := ⟨100000, by decide⟩
  couponId := none
  discountAmount := none
  quoteTotal := none
  corporateAccountId := none

def samplePayment : Payment where
  id := "payment"
  razorpayOrderId := some (.gateway "order")
  razorpayPaymentId := none
  razorpayRefundId := none
  amount := ⟨111800, by decide⟩
  refundAmount := none
  status := .created
  refundStatus := .none
  gatewayProvider := "RAZORPAY"
  paymentMethod := none

def sampleDeposit : Money := ⟨5000, by decide⟩

def sampleTotal : Money := ⟨116800, by decide⟩

/-- The booking, ordered at the gateway without a deposit, and an empty wallet. -/
def sampleCheckout : Checkout where
  booking := sampleBooking
  securityDeposit := none
  payment := some samplePayment
  wallet := ⟨.active, 0, 0, 0, []⟩
  coupon := none
  couponUsages := []
  ledger := Ledger.empty
  refunds := []
  webhookEvents := []
  auditLog := []
  vendorDeposit := none
  gatewayRefunds := []

/-- A live gateway and an enabled wallet with a cap of 100000.00. -/
def liveConfig : PaymentConfig := ⟨false, true, 10000000⟩

/-!
## The customer's wallet

`WalletsService.creditWallet` and `debitWallet`.  Both are idempotent in the key
of their ledger entry; a debit consumes promotional money before real money.
-/

inductive WalletBucketType where
  | realMoney
  | promotional
  | refundCredit
deriving DecidableEq

def maxWalletBalanceCap : ℤ := 100000 * 100

/-- How high a credit may take the balance. -/
def balanceCap (config : PaymentConfig) (type : LedgerEntryType) : ℤ :=
  if type = .adminAdjustment then maxWalletBalanceCap else config.maxWalletBalanceCap

namespace Wallet

def findEntry (wallet : Wallet) (idempotencyKey : String) : Option WalletLedgerEntry :=
  wallet.entries.find? fun entry => entry.idempotencyKey = idempotencyKey

def creditWallet (config : PaymentConfig) (wallet : Wallet) (amount : ℤ) (type : LedgerEntryType)
    (bucket : WalletBucketType) (referenceType : String) (referenceId : Option Id)
    (idempotencyKey : String) : Except HttpError Wallet :=
  if amount ≤ 0 then
    .error (.badRequest "Credit amount must be strictly greater than zero.")
  else if (wallet.findEntry idempotencyKey).isSome then .ok wallet
  else if wallet.status ≠ .active then .error (.badRequest "Wallet is not active")
  else if type ≠ .adminAdjustment ∧ !config.walletEnabled then
    .error (.badRequest "Wallet operations are currently disabled by platform administrator.")
  else if wallet.availableBalance + amount > balanceCap config type then
    .error (.badRequest "Wallet balance cap exceeded.")
  else
    let toReal := bucket = .realMoney ∨ bucket = .refundCredit
    .ok { wallet with
      availableBalance := wallet.availableBalance + amount
      realBalance := if toReal then wallet.realBalance + amount else wallet.realBalance
      promoBalance := if toReal then wallet.promoBalance else wallet.promoBalance + amount
      entries := wallet.entries ++
        [{ type, direction := .credit, amount, referenceType, referenceId, idempotencyKey }] }

def debitWallet (config : PaymentConfig) (wallet : Wallet) (amount : ℤ) (type : LedgerEntryType)
    (referenceType : String) (referenceId : Option Id) (idempotencyKey : String) :
    Except HttpError Wallet :=
  if amount ≤ 0 then
    .error (.badRequest "Debit amount must be strictly greater than zero.")
  else if (wallet.findEntry idempotencyKey).isSome then .ok wallet
  else if wallet.status ≠ .active then .error (.badRequest "Wallet is not active")
  else if type ≠ .adminAdjustment ∧ !config.walletEnabled then
    .error (.badRequest "Wallet operations are currently disabled by platform administrator.")
  else if wallet.availableBalance < amount then
    .error (.badRequest "Insufficient wallet balance.")
  else
    let fromPromo := if 0 < wallet.promoBalance then min wallet.promoBalance amount else 0
    .ok { wallet with
      availableBalance := wallet.availableBalance - amount
      realBalance := wallet.realBalance - (amount - fromPromo)
      promoBalance := wallet.promoBalance - fromPromo
      entries := wallet.entries ++
        [{ type, direction := .debit, amount, referenceType, referenceId, idempotencyKey }] }

variable {config : PaymentConfig} {wallet wallet' : Wallet} {amount : ℤ} {type : LedgerEntryType}
  {bucket : WalletBucketType} {referenceType : String} {referenceId : Option Id}
  {idempotencyKey : String}

theorem creditWallet_eq_ok
    (h : creditWallet config wallet amount type bucket referenceType referenceId idempotencyKey =
      .ok wallet') :
    0 < amount ∧
      wallet'.entries = wallet.entries ++
        (if (wallet.findEntry idempotencyKey).isSome then []
          else [⟨type, .credit, amount, referenceType, referenceId, idempotencyKey⟩]) := by
  unfold creditWallet at h
  split at h
  · cases h
  next hamount =>
    refine ⟨by omega, ?_⟩
    split at h
    next hfound =>
      cases h
      simp [hfound]
    next hfound =>
      split at h
      · cases h
      split at h
      · cases h
      split at h
      · cases h
      cases h
      simp [hfound]

end Wallet

end CarRental
