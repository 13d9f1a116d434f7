import CarRental.Finance.LedgerIntegrity
import CarRental.Payments.Reconciliation
import CarRental.Payments.Refund

/-!
# The journal of a cancellation

`BookingLifecycleService.executeTransition` reverses a paid booking's revenue
when it is cancelled: the refund is split over vendor, platform and tax in
proportion to the booking's fare, in decimal arithmetic, and the platform takes
the rest.  The proportional lines are in general no whole number of paise.
-/

namespace CarRental

open DoubleEntry

/-- How a refund is split. -/
structure Reversal where
  depositRefund : Decimal
  vendorReversal : Decimal
  platformReversal : Decimal
  gstReversal : Decimal

def depositRefund (securityDeposit : Option SecurityDeposit) (refundRupees : Decimal) : Decimal :=
  match securityDeposit with
  | none => 0
  | some deposit =>
    if 0 < deposit.amount.value ∧ deposit.status ≠ .cancelled then
      min deposit.amount.value refundRupees
    else 0

def reversal (booking : Booking) (securityDeposit : Option SecurityDeposit)
    (refundRupees : Decimal) : Reversal :=
  let depositRefund := depositRefund securityDeposit refundRupees
  let rest := Decimal.sub refundRupees depositRefund
  let fareRefund := if 0 ≤ rest then rest else 0
  let netToVendor := booking.netToVendor.value
  if 0 < booking.totalFare.value ∧ 0 < fareRefund then
    let ratio := Decimal.div fareRefund booking.totalFare.value
    let vendorReversal := min netToVendor (Decimal.mul netToVendor ratio)
    let platformReversal := Decimal.mul booking.platformFee.value ratio
    let gstReversal := Decimal.mul booking.gstAmount.value ratio
    let sub := Decimal.add
      (Decimal.add (Decimal.add vendorReversal platformReversal) gstReversal) depositRefund
    let diff := Decimal.sub refundRupees sub
    { depositRefund
      vendorReversal
      platformReversal := Decimal.add platformReversal diff
      gstReversal }
  else if depositRefund < refundRupees then
    let vendorReversal := min netToVendor rest
    { depositRefund
      vendorReversal
      platformReversal := Decimal.sub rest vendorReversal
      gstReversal := 0 }
  else
    { depositRefund, vendorReversal := 0, platformReversal := 0, gstReversal := 0 }

/-- A debit line, left out unless its amount is positive. -/
def debitLine (accountType : LedgerAccountType) (accountEntityId : Option Id) (amount : Decimal) :
    List JournalEntryLineInput :=
  if 0 < amount then [⟨accountType, accountEntityId, some .debit, amount⟩] else []

def reversalLines (booking : Booking) (securityDeposit : Option SecurityDeposit)
    (gatewayProvider : String) (refundRupees : Decimal) : List JournalEntryLineInput :=
  let split := reversal booking securityDeposit refundRupees
  debitLine .customerDepositEscrow (some booking.customerId) split.depositRefund ++
    debitLine .vendorPayable (some booking.vendorId) split.vendorReversal ++
    debitLine .platformCommissionRevenue none split.platformReversal ++
    debitLine .taxGstLiability none split.gstReversal ++
    [⟨.gatewayClearing, some gatewayProvider, some .credit, refundRupees⟩]

/-- The journal that a cancellation with a refund of `refundRupees` records. -/
def reversalJournal (booking : Booking) (securityDeposit : Option SecurityDeposit)
    (gatewayProvider : String) (refundRupees : Decimal) : RecordJournalInput JournalKey where
  lines := reversalLines booking securityDeposit gatewayProvider refundRupees
  idempotencyKey := some (.refundIntent booking.id)
  vendorId := some booking.vendorId
  journalId := none

/-! ## A late cancellation -/

/-- A booking of 501.00 with a commission of 15% and 18% GST on the commission. -/
def lateCancelled : Booking where
  id := "booking"
  customerId := "customer"
  vendorId := "vendor"
  status := .confirmed
  totalFare := ⟨58968, by decide⟩
  platformFee := ⟨7515, by decide⟩
  gstAmount := ⟨1353, by decide⟩
  netToVendor := ⟨50100, by decide⟩
  couponId := none
  discountAmount := none
  quoteTotal := none
  corporateAccountId := none

/-- Half of 589.68 goes back as 250.5 + 37.575 + 6.765 against 294.84, is accepted,
and is stored as 250.50 + 37.58 + 6.77 against 294.84. -/
theorem lateCancelled_stored_unbalanced :
    let journal := reversalJournal lateCancelled none "RAZORPAY" (29484 / 100)
    (recordedEntries Ledger.empty journal).length = 4 ∧
      ¬ BalancedEntries (recordedEntries Ledger.empty journal) ∧
      (verifyLedgerIntegrity (ledgerStep Ledger.empty journal)).unbalancedJournals =
        [.generated 0] := by
  decide +kernel

/-!
## Reconciliation of orphaned refunds

`FinancialReconciliationService.reconcileOrphanedRefunds` looks for paid payments of
confirmed bookings that the gateway has refunded behind the services' back, and cancels the
booking in its books.  It splits the refund over vendor, platform and tax with a copy of the
code that `executeTransition` uses.

`reconcileOrphanedRefund` is the loop's body for one candidate.
-/

/-! ## The journal -/

/-- The loop's own copy of the split. -/
def reconcileReversal (booking : Booking) (securityDeposit : Option SecurityDeposit)
    (refundRupees : Decimal) : Reversal :=
  let depositAmount := (securityDeposit.map fun deposit => deposit.amount.value).getD 0
  let depositRefund :=
    if 0 < depositAmount ∧ securityDeposit.map SecurityDeposit.status ≠ some .cancelled then
      min depositAmount refundRupees
    else 0
  let fareRefund :=
    if 0 ≤ Decimal.sub refundRupees depositRefund then Decimal.sub refundRupees depositRefund else 0
  if 0 < booking.totalFare.value ∧ 0 < fareRefund then
    let ratio := Decimal.div fareRefund booking.totalFare.value
    let vendorReversal :=
      min booking.netToVendor.value (Decimal.mul booking.netToVendor.value ratio)
    let platformReversal := Decimal.mul booking.platformFee.value ratio
    let gstReversal := Decimal.mul booking.gstAmount.value ratio
    let sub := Decimal.add
      (Decimal.add (Decimal.add vendorReversal platformReversal) gstReversal) depositRefund
    let diff := Decimal.sub refundRupees sub
    ⟨depositRefund, vendorReversal, Decimal.add platformReversal diff, gstReversal⟩
  else if depositRefund < refundRupees then
    let vendorReversal :=
      min booking.netToVendor.value (Decimal.sub refundRupees depositRefund)
    ⟨depositRefund, vendorReversal,
      Decimal.sub (Decimal.sub refundRupees depositRefund) vendorReversal, 0⟩
  else ⟨depositRefund, 0, 0, 0⟩

def reconcileReversalLines (booking : Booking) (securityDeposit : Option SecurityDeposit)
    (gatewayProvider : String) (refundRupees : Decimal) : List JournalEntryLineInput :=
  let split := reconcileReversal booking securityDeposit refundRupees
  debitLine .customerDepositEscrow (some booking.customerId) split.depositRefund ++
    debitLine .vendorPayable (some booking.vendorId) split.vendorReversal ++
    debitLine .platformCommissionRevenue none split.platformReversal ++
    debitLine .taxGstLiability none split.gstReversal ++
    [⟨.gatewayClearing, some gatewayProvider, some .credit, refundRupees⟩]

/-- The journal that a healed refund records. -/
def reconcileReversalJournal (booking : Booking) (securityDeposit : Option SecurityDeposit)
    (gatewayProvider : String) (refundRupees : Decimal) (refundId : String) :
    RecordJournalInput JournalKey where
  lines := reconcileReversalLines booking securityDeposit gatewayProvider refundRupees
  idempotencyKey := some (.reconcileRefund booking.id refundId)
  vendorId := some booking.vendorId
  journalId := none

theorem reconcileReversal_eq (booking : Booking) (securityDeposit : Option SecurityDeposit)
    (refundRupees : Decimal) :
    reconcileReversal booking securityDeposit refundRupees =
      reversal booking securityDeposit refundRupees := by
  have hdeposit : (if 0 < (securityDeposit.map fun deposit => deposit.amount.value).getD 0 ∧
        securityDeposit.map SecurityDeposit.status ≠ some .cancelled then
      min ((securityDeposit.map fun deposit => deposit.amount.value).getD 0) refundRupees
    else 0) = depositRefund securityDeposit refundRupees := by
    cases securityDeposit with
    | none => rw [depositRefund, if_neg fun h => lt_irrefl _ h.1]
    | some deposit =>
      rw [depositRefund]
      exact if_congr (and_congr_right' (not_congr (by simp))) rfl rfl
  unfold reconcileReversal
  dsimp only
  rw [hdeposit]
  rfl

theorem reconcileReversalLines_eq (booking : Booking) (securityDeposit : Option SecurityDeposit)
    (gatewayProvider : String) (refundRupees : Decimal) :
    reconcileReversalLines booking securityDeposit gatewayProvider refundRupees =
      reversalLines booking securityDeposit gatewayProvider refundRupees := by
  rw [reconcileReversalLines, reconcileReversal_eq]
  rfl

/-! ## One candidate -/

/-- The booking has a journal of its payment: of type `BOOKING_PAYMENT_VERIFIED` or
`BOOKING_CONFIRMATION`. -/
def hasBaselineJournal (ledger : Ledger JournalKey) (bookingId : Id) : Bool :=
  !(ledger.rowsOf (.payVerify bookingId)).isEmpty ||
    !(ledger.rowsOf (.bookingConfirm bookingId)).isEmpty

structure GatewayRefundItem where
  id : String
  amount : ℤ
  status : GatewayRefundState
  paymentId : String
deriving DecidableEq

/-- The first refund of the payment that has not failed. -/
def validRefund (razorpayPaymentId : String) (items : List GatewayRefundItem) :
    Option GatewayRefundItem :=
  items.find? fun item =>
    (item.status = .processed ∨ item.status = .pending) ∧ item.paymentId = razorpayPaymentId

/-- An old enough paid payment of a confirmed booking, without a refund. -/
def isOrphanCandidate (s : Checkout) (payment : Payment) (oldEnough : Bool) : Bool :=
  payment.status = .paid && payment.refundStatus = .none && payment.razorpayPaymentId.isSome &&
    s.booking.status = .confirmed && oldEnough

/-- The transaction that heals payment, booking and ledger. -/
def healOrphanedRefund (s : Checkout) (payment : Payment) (refund : GatewayRefundItem) :
    Except LedgerError Checkout := do
  let s₁ := s.setPayment
    { payment with
      status := .refunded
      refundStatus := refund.status.refundStatus
      razorpayRefundId := some (.issued refund.id)
      refundAmount := some refund.amount }
  let s₂ := { s₁ with booking := { s₁.booking with status := .cancelled } }
  let ledger ←
    if hasBaselineJournal s.ledger s.booking.id then .ok s.ledger
    else
      (recordJournal s.ledger
        (reconciliationJournal s.booking payment s.depositAmount s.totalExpected)).map Prod.fst
  let (ledger, _) ← recordJournal ledger
    (reconcileReversalJournal s.booking s.securityDeposit payment.gatewayProvider
      ((refund.amount : ℚ) / 100) refund.id)
  return { s₂ with ledger }

def reconcileOrphanedRefund (config : PaymentConfig) (s : Checkout) (oldEnough lockAcquired : Bool)
    (refundsList : Option (List GatewayRefundItem)) : Checkout × ReconciliationOutcome :=
  match s.payment with
  | none => (s, .notCandidate)
  | some payment =>
    if !isOrphanCandidate s payment oldEnough then (s, .notCandidate)
    else if !lockAcquired then (s, .skipped)
    else if config.useMock then (s, .skipped)
    else
      match refundsList, payment.razorpayPaymentId with
      | some items, some razorpayPaymentId =>
        match validRefund razorpayPaymentId items with
        | none => (s, .skipped)
        | some refund =>
          if payment.amount.paise < refund.amount then (s, .error)
          else
            match healOrphanedRefund s payment refund with
            | .ok s' => (s', .healed)
            | .error _ => (s, .error)
      | _, _ => (s, .error)

end CarRental
