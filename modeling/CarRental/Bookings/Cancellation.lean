import CarRental.Bookings.CancellationPolicy
import CarRental.Bookings.FleetCalendar
import CarRental.Payments.OrphanedRefunds

/-!
# Cancelling a booking

`BookingLifecycleService.executeTransition` with the target `CANCELLED`.

Its transaction cancels booking and deposit and, when money goes back, adds a `PaymentRefund` row
that says so (the refund intent) and posts the reversal journal.  After the commit it asks
`refund` for the money and closes the intent, or marks it for a retry.

What the gateway answers, and the time, are arguments.
-/

namespace CarRental

/-- What a cancellation reads beside the checkout. -/
structure TripTerms where
  startDate : ℤ
  /-- The account that the vendor logs in with. -/
  vendorUserId : Id
  /-- The matrix in the booking's price snapshot. -/
  historicalMatrix : Option CancellationMatrixConfig
  configuredMatrix : Option CancellationMatrixConfig

structure CancelRequest where
  actorId : Id
  actorRole : ActorRole
  reason : Option String
  now : ℤ
deriving DecidableEq

/-! ## Checks -/

def validateAuthorization (booking : Booking) (vendorUserId actorId : Id) (actorRole : ActorRole) :
    Except HttpError Unit :=
  let isCustomer := booking.customerId = actorId
  let isVendor := vendorUserId = actorId
  if actorRole = .system ∨ actorRole = .admin then .ok ()
  else if ¬ isCustomer ∧ ¬ isVendor then
    .error (.forbidden
      "Access denied: You are not authorized to perform actions on this booking.")
  else if actorRole = .customer ∧ ¬ isCustomer then
    .error (.forbidden "You can only perform actions on your own bookings.")
  else if actorRole = .vendor ∧ ¬ isVendor then
    .error (.forbidden "You can only transition bookings for your own fleet.")
  else .ok ()

/-- `text.includes(part)` -/
def includesText (text part : String) : Bool :=
  text.toList.tails.any fun rest => part.toList.isPrefixOf rest

/-- Without a payment row the fare counts as paid. -/
def cancelParams (s : Checkout) (terms : TripTerms) (request : CancelRequest) :
    CalculateCancellationParams where
  startDate := terms.startDate
  cancellationTime := request.now
  amountPaid := (s.payment.map fun payment => payment.amount.paise).getD s.booking.totalFare.paise
  depositAmount := s.depositAmount
  actorRole := if request.actorRole = .system then .admin else request.actorRole
  isAdminOverride :=
    request.actorRole = .admin && request.reason.any fun text => includesText text "admin_full_refund"
  isPendingConfirmation := s.booking.status = .pending

/-- What the cancellation gives back, in paise. -/
def cancelRefund (s : Checkout) (terms : TripTerms) (request : CancelRequest) : ℤ :=
  (calculateCancellation (resolveMatrix terms.historicalMatrix terms.configuredMatrix)
    (cancelParams s terms request)).refundAmountInPaise

/-! ## The transaction -/

/-- `rfnd_<bookingId>_<paymentId>_<time>` -/
def refundIntentKey (s : Checkout) (now : ℤ) : String :=
  "rfnd_" ++ s.booking.id ++ "_" ++ (s.payment.map Payment.id).getD "pay" ++ "_" ++ toString now

def refundIntent (idempotencyKey : String) (refundPaise : ℤ) : PaymentRefund where
  idempotencyKey
  gatewayRefundId := none
  requestedAmount := refundPaise
  processedAmount := none
  status := .pending

/-- A deposit that is still required or held goes with the booking. -/
def cancelDeposit (deposit : SecurityDeposit) : SecurityDeposit :=
  if deposit.status = .required ∨ deposit.status = .held then { deposit with status := .cancelled }
  else deposit

/-- The journals of a cancellation: the payment's, where a paid booking has none yet, and the
reversal. -/
def postReversal (s : Checkout) (payment : Payment) (refundPaise : ℤ) :
    Except LedgerError (Ledger JournalKey) := do
  let ledger ←
    if !hasBaselineJournal s.ledger s.booking.id ∧ payment.status = .paid then
      (recordJournal s.ledger
        (reconciliationJournal s.booking payment s.depositAmount s.totalExpected)).map Prod.fst
    else .ok s.ledger
  let (ledger, _) ← recordJournal ledger
    (reversalJournal s.booking s.securityDeposit payment.gatewayProvider ((refundPaise : ℚ) / 100))
  return ledger

def cancelTransaction (s : Checkout) (refundPaise : ℤ) (now : ℤ) : Except HttpError Checkout :=
  let cancelled : Checkout :=
    { s with
      booking := { s.booking with status := .cancelled }
      securityDeposit := s.securityDeposit.map cancelDeposit }
  if refundPaise ≤ 0 then .ok cancelled
  else
    match s.payment with
    -- the intent then refers to a payment by the booking's id
    | none => .error (.internal "Foreign key constraint failed")
    | some payment =>
      if (findRefund s (refundIntentKey s now)).isSome then
        .error (.internal "Unique constraint failed")
      else
        match postReversal s payment refundPaise with
        | .error _ => .error (.badRequest "Ledger journal refused.")
        | .ok ledger =>
          .ok { cancelled with
            refunds := s.refunds ++ [refundIntent (refundIntentKey s now) refundPaise]
            ledger }

/-! ## The refund after the commit -/

/-- A pending row, closed by the reply of `refund`. -/
def PaymentRefund.settle (reply : RefundReply) (row : PaymentRefund) : PaymentRefund :=
  if row.status = .pending then
    { row with
      status := .processed
      gatewayRefundId := reply.refundId <|> row.gatewayRefundId
      processedAmount := some reply.refundAmount }
  else row

/-- A pending row, left to a retry. -/
def PaymentRefund.markRetryable (row : PaymentRefund) : PaymentRefund :=
  if row.status = .pending then { row with status := .retryable } else row

/-- The rows after `refund` has returned.  An update that gives two rows the same refund id
fails as a whole, and its error counts as one of the refund. -/
def settleRefunds (refunds : List PaymentRefund) (reply : RefundReply) : List PaymentRefund :=
  let settled := refunds.map (PaymentRefund.settle reply)
  if (refundIds settled).Nodup then settled else refunds.map PaymentRefund.markRetryable

def dispatchRefund (config : PaymentConfig) (s : Checkout) (refundPaise : ℤ)
    (answer : GatewayRefundAnswer) (mockId : String) : Checkout :=
  match refund config s ⟨refundPaise, none, none⟩ answer mockId with
  | (s', .ok reply) => { s' with refunds := settleRefunds s'.refunds reply }
  | (s', .error _) => { s' with refunds := s'.refunds.map PaymentRefund.markRetryable }

/-- `executeTransition` to `CANCELLED`. -/
def executeCancellation (config : PaymentConfig) (terms : TripTerms) (s : Checkout)
    (request : CancelRequest) (answer : GatewayRefundAnswer) (mockId : String) :
    CheckoutReply BookingStatus :=
  if s.booking.status = .cancelled then (s, .ok .cancelled)
  else
    match validateAuthorization s.booking terms.vendorUserId request.actorId request.actorRole with
    | .error e => (s, .error e)
    | .ok () =>
      if .cancelled ∉ lifecycleMatrix s.booking.status then
        (s, .error (.badRequest "Invalid lifecycle transition."))
      else
        -- computed outside the transaction, from the booking that was read before it
        let refundPaise := cancelRefund s terms request
        match cancelTransaction s refundPaise request.now with
        | .error e => (s, .error e)
        | .ok s₁ =>
          (if 0 < refundPaise then dispatchRefund config s₁ refundPaise answer mockId else s₁,
            .ok .cancelled)

end CarRental
