import CarRental.Payments.Orders

/-!
# Refunds

`PaymentsService.refund` and `adminRefund`, and `DepositsService.releaseDeposit`,
which refunds through the former.  A refund goes to the gateway first and to the
wallet for what the gateway did not capture; the gateway's answer is an argument.

Amounts are whole paise, as the callers compute them.
-/

namespace CarRental

inductive GatewayRefundState where
  | pending
  | failed
  | processed
deriving DecidableEq

inductive GatewayRefundAnswer where
  | issued (id : String) (state : GatewayRefundState)
  /-- An error that says the payment is already refunded, and the refund that the
  gateway then lists first. -/
  | alreadyRefunded (existing : Option (String × GatewayRefundState))
  | error (description : String)
deriving DecidableEq

def GatewayRefundState.refundStatus : GatewayRefundState → RefundStatus
  | .pending => .pending
  | .failed => .failed
  | .processed => .processed

structure RefundReply where
  refundId : Option GatewayRefundId
  refundAmount : ℤ
  refundStatus : RefundStatus
  isDuplicate : Bool
deriving DecidableEq

/-! ## Allocation -/

/-- What the checkout debits of the booking took from the wallet. -/
def totalWalletPaid (s : Checkout) : ℤ :=
  ((s.wallet.entries.filter fun entry => entry.referenceType = "BOOKING" ∧
    entry.referenceId = some s.booking.id ∧ entry.type = .checkoutDebit).map
      WalletLedgerEntry.amount).sum

theorem totalWalletPaid_congr {s s' : Checkout} (hid : s'.booking.id = s.booking.id)
    (hwallet : s'.wallet = s.wallet) : totalWalletPaid s' = totalWalletPaid s := by
  rw [totalWalletPaid, totalWalletPaid, hid, hwallet]

def gatewayRefundPart (s : Checkout) (payment : Payment) (refundPaise : ℤ) : ℤ :=
  min refundPaise (payment.amount.paise - totalWalletPaid s)

def walletRefundPart (s : Checkout) (payment : Payment) (refundPaise : ℤ) : ℤ :=
  refundPaise - gatewayRefundPart s payment refundPaise

def defaultRefundKey (s : Checkout) (payment : Payment) : String :=
  "refund_" ++ s.booking.id ++ "_" ++ payment.id

def walletRefundKey (s : Checkout) (payment : Payment) : String :=
  "refund_wallet_" ++ s.booking.id ++ "_" ++ payment.id

def findRefund (s : Checkout) (idempotencyKey : String) : Option PaymentRefund :=
  s.refunds.find? fun refund => refund.idempotencyKey = idempotencyKey

/-- The refund ids of the rows; the column is unique. -/
def refundIds (refunds : List PaymentRefund) : List GatewayRefundId :=
  refunds.filterMap PaymentRefund.gatewayRefundId

/-! ## The two parts of a refund -/

/-- The gateway's part: its id and status, and the refund that the gateway now holds. -/
def gatewayRefund (config : PaymentConfig) (s : Checkout) (payment : Payment) (gatewayPaise : ℤ)
    (answer : GatewayRefundAnswer) (mockId : String) :
    Except HttpError (Checkout × GatewayRefundId × RefundStatus) :=
  if positive : 0 < gatewayPaise then
    if config.useMock then
      .ok ({ s with
          gatewayRefunds := s.gatewayRefunds ++ [⟨mockId, gatewayPaise, .processed, positive⟩] },
        .issued mockId, .processed)
    else if payment.razorpayPaymentId = none then
      .error (.badRequest "Cannot refund a gateway payment without a Razorpay payment ID")
    else
      match answer with
      | .issued id state =>
        .ok ({ s with
            gatewayRefunds :=
              s.gatewayRefunds ++ [⟨id, gatewayPaise, state.refundStatus, positive⟩] },
          .issued id, state.refundStatus)
      | .alreadyRefunded (some (id, state)) => .ok (s, .issued id, state.refundStatus)
      | .alreadyRefunded none => .error (.badRequest "Failed to initiate refund with Razorpay")
      | .error _ => .error (.badRequest "Failed to initiate refund with Razorpay")
  else .ok (s, .wallet s.booking.id, .processed)

/-- The wallet's part: one credit per booking and payment. -/
def walletRefund (config : PaymentConfig) (s : Checkout) (payment : Payment) (walletPaise : ℤ) :
    Except HttpError Checkout :=
  if 0 < walletPaise then
    match s.wallet.creditWallet config walletPaise .bookingRefund .refundCredit "BOOKING"
        (some s.booking.id) (walletRefundKey s payment) with
    | .ok wallet => .ok { s with wallet }
    | .error e => .error e
  else .ok s

/-- The payment row, the audit entry and the `PaymentRefund` row of an issued refund.
The last one is dropped when its gateway refund id is already in the table. -/
def recordRefund (s : Checkout) (payment : Payment) (refundPaise : ℤ) (idempotencyKey : String)
    (requestedByUserId : Option Id) (refundId : GatewayRefundId) (status : RefundStatus) :
    Checkout :=
  let newStatus := if status = .processed then PaymentStatus.refunded else .paid
  let s := s.setPayment
    { payment with
      status := newStatus
      razorpayRefundId := some refundId
      refundAmount := some refundPaise
      refundStatus := status }
  let s := s.audit
    { eventType := if status = .processed then "REFUND_PROCESSED" else "REFUND_INITIATED"
      fromStatus := some payment.status
      toStatus := if status = .processed then .refunded else payment.status
      amount := some refundPaise
      gatewayReference := none
      source := if requestedByUserId.isSome then "ADMIN" else "SYSTEM" }
  { s with
    refunds :=
      if s.refunds.any fun refund => refund.gatewayRefundId = some refundId then s.refunds
      else
        s.refunds ++ [
          { idempotencyKey
            gatewayRefundId := some refundId
            requestedAmount := refundPaise
            processedAmount := if status = .processed then some refundPaise else none
            status }] }

section Parts

variable {config : PaymentConfig} {s s' : Checkout} {payment : Payment}

/-- The state once the gateway holds a new refund. -/
def AddsRefund (s s' : Checkout) (paise : ℤ) (status : RefundStatus) : Prop :=
  ∃ refund : GatewayRefund, refund.paise = paise ∧ refund.status = status ∧
    s' = { s with gatewayRefunds := s.gatewayRefunds ++ [refund] }

theorem gatewayRefund_cases {gatewayPaise : ℤ} {answer : GatewayRefundAnswer} {mockId : String}
    {refundId : GatewayRefundId} {status : RefundStatus}
    (h : gatewayRefund config s payment gatewayPaise answer mockId = .ok (s', refundId, status)) :
    (gatewayPaise ≤ 0 ∧ refundId = .wallet s.booking.id ∧ status = .processed ∧ s' = s) ∨
    (0 < gatewayPaise ∧ config.useMock = true ∧ refundId = .issued mockId ∧ status = .processed ∧
      AddsRefund s s' gatewayPaise status) ∨
    (0 < gatewayPaise ∧ config.useMock = false ∧ ∃ id state,
      refundId = .issued id ∧ status = state.refundStatus ∧
        (answer = .alreadyRefunded (some (id, state)) ∧ s' = s ∨
          answer = .issued id state ∧ AddsRefund s s' gatewayPaise status)) := by
  unfold gatewayRefund at h
  split at h
  next hpaise =>
    refine .inr ?_
    split at h
    next hmock =>
      cases h
      exact .inl ⟨hpaise, hmock, rfl, rfl, _, rfl, rfl, rfl⟩
    next hlive =>
      refine .inr ⟨hpaise, Bool.eq_false_of_not_eq_true hlive, ?_⟩
      split at h
      · cases h
      split at h
      next id state =>
        cases h
        exact ⟨id, state, rfl, rfl, .inr ⟨rfl, _, rfl, rfl, rfl⟩⟩
      next id state =>
        cases h
        exact ⟨id, state, rfl, rfl, .inl ⟨rfl, rfl⟩⟩
      · cases h
      · cases h
  next hnone =>
    cases h
    exact .inl ⟨not_lt.mp hnone, rfl, rfl, rfl⟩

theorem gatewayRefund_eq_ok {gatewayPaise : ℤ} {answer : GatewayRefundAnswer} {mockId : String}
    {refundId : GatewayRefundId} {status : RefundStatus}
    (h : gatewayRefund config s payment gatewayPaise answer mockId = .ok (s', refundId, status)) :
    ∃ gatewayRefunds, s' = { s with gatewayRefunds } := by
  rcases gatewayRefund_cases h with ⟨-, -, -, hsame⟩ | ⟨-, -, -, -, refund, -, -, hadded⟩ |
    ⟨-, -, -, -, -, -, ⟨-, hsame⟩ | ⟨-, refund, -, -, hadded⟩⟩
  · exact ⟨s.gatewayRefunds, hsame⟩
  · exact ⟨_, hadded⟩
  · exact ⟨s.gatewayRefunds, hsame⟩
  · exact ⟨_, hadded⟩

theorem walletRefund_eq_ok {walletPaise : ℤ}
    (h : walletRefund config s payment walletPaise = .ok s') : ∃ wallet, s' = { s with wallet } := by
  unfold walletRefund at h
  split at h
  · split at h
    next wallet _ =>
      cases h
      exact ⟨wallet, rfl⟩
    · cases h
  · cases h
    exact ⟨s.wallet, rfl⟩

theorem recordRefund_paymentStatus (refundPaise : ℤ) (idempotencyKey : String)
    (requestedByUserId : Option Id) (refundId : GatewayRefundId) (status : RefundStatus) :
    (recordRefund s payment refundPaise idempotencyKey requestedByUserId refundId
        status).paymentStatus =
      some (if status = .processed then .refunded else .paid) := rfl

end Parts

/-! ## Entry points -/

structure RefundRequest where
  refundAmountInPaise : ℤ
  idempotencyKey : Option String
  requestedByUserId : Option Id
deriving DecidableEq

def refund (config : PaymentConfig) (s : Checkout) (request : RefundRequest)
    (answer : GatewayRefundAnswer) (mockId : String) : CheckoutReply RefundReply :=
  match s.payment with
  | none => (s, .ok ⟨none, 0, .none, false⟩)
  | some payment =>
    -- the reply tells what the payment row says, and nothing is refunded
    if payment.status ≠ .paid then
      (s, .ok ⟨payment.razorpayRefundId, payment.refundAmount.getD 0, payment.refundStatus, false⟩)
    else if request.refundAmountInPaise ≤ 0 then
      (s.setPayment { payment with refundAmount := some 0, refundStatus := .none },
        .ok ⟨none, 0, .none, false⟩)
    else if payment.amount.paise < request.refundAmountInPaise then
      (s, .error (.badRequest "Refund amount cannot exceed payment amount."))
    else
      let key := request.idempotencyKey.getD (defaultRefundKey s payment)
      match findRefund s key with
      | some existing =>
        (s, .ok ⟨existing.gatewayRefundId,
          existing.processedAmount.getD existing.requestedAmount, existing.status, true⟩)
      | none =>
        let refundPaise := request.refundAmountInPaise
        match gatewayRefund config s payment (gatewayRefundPart s payment refundPaise) answer
            mockId with
        | .error e => (s, .error e)
        | .ok (s₁, refundId, status) =>
          -- the gateway has answered: what it holds stays even if the wallet refuses
          match walletRefund config s₁ payment (walletRefundPart s payment refundPaise) with
          | .error e => (s₁, .error e)
          | .ok s₂ =>
            (recordRefund s₂ payment refundPaise key request.requestedByUserId refundId
                status,
              .ok ⟨some refundId, refundPaise, status, false⟩)

theorem refund_frame (config : PaymentConfig) (s : Checkout) (request : RefundRequest)
    (answer : GatewayRefundAnswer) (mockId : String) :
    (refund config s request answer mockId).1.booking = s.booking ∧
      (refund config s request answer mockId).1.securityDeposit = s.securityDeposit := by
  unfold refund
  split
  · exact ⟨rfl, rfl⟩
  next payment hpayment =>
    split
    · exact ⟨rfl, rfl⟩
    split
    · exact ⟨rfl, rfl⟩
    split
    · exact ⟨rfl, rfl⟩
    dsimp only
    split
    · exact ⟨rfl, rfl⟩
    split
    · exact ⟨rfl, rfl⟩
    next s₁ refundId status hgateway =>
      obtain ⟨gatewayRefunds, rfl⟩ := gatewayRefund_eq_ok hgateway
      split
      · exact ⟨rfl, rfl⟩
      next s₂ hwallet =>
        obtain ⟨wallet, rfl⟩ := walletRefund_eq_ok hwallet
        exact ⟨rfl, rfl⟩

structure AdminRefundDto where
  amountInPaise : Option ℤ
  idempotencyKey : Option String
deriving DecidableEq

/-- The amount that an admin refund asks for. -/
def adminRefundTarget (payment : Payment) (dto : AdminRefundDto) : ℤ :=
  let maxRefundable := payment.amount.paise - payment.refundAmount.getD 0
  match dto.amountInPaise with
  | some paise => if paise = 0 then maxRefundable else paise
  | none => maxRefundable

def adminRefund (config : PaymentConfig) (s : Checkout) (dto : AdminRefundDto) (adminId : Id)
    (isAdmin : Bool) (generatedKey : String) (answer : GatewayRefundAnswer) (mockId : String) :
    CheckoutReply RefundReply :=
  if !isAdmin then
    (s, .error (.forbidden "Only administrators can issue manual refunds."))
  else
    match s.payment with
    | none => (s, .error (.notFound "Payment not found for booking."))
    | some payment =>
      if payment.status ≠ .paid ∧ payment.status ≠ .refunded ∧
          payment.status ≠ .partiallyRefunded then
        (s, .error (.badRequest "Cannot refund payment in its status."))
      else
        let maxRefundable := payment.amount.paise - payment.refundAmount.getD 0
        if maxRefundable ≤ 0 then
          (s, .error (.badRequest "Payment has already been fully refunded."))
        else if maxRefundable < adminRefundTarget payment dto then
          (s, .error (.badRequest "Requested refund amount exceeds remaining refundable amount."))
        else
          refund config s
            ⟨adminRefundTarget payment dto, some (dto.idempotencyKey.getD generatedKey),
              some adminId⟩ answer mockId

/-! ## Deposit release -/

def setDeposit (s : Checkout) (deposit : SecurityDeposit) : Checkout :=
  { s with securityDeposit := some deposit }

def depositReleaseJournal (booking : Booking) (deposit : SecurityDeposit) (paise : ℤ) :
    RecordJournalInput JournalKey where
  lines := [
    ⟨.customerDepositEscrow, some booking.customerId, some .debit, (paise : ℚ) / 100⟩,
    ⟨.gatewayClearing, some "RAZORPAY", some .credit, (paise : ℚ) / 100⟩]
  idempotencyKey := some (.depositRelease deposit.id)
  vendorId := none
  journalId := none

/-- The bookkeeping after a release; a refused journal is only logged. -/
def settleRelease (s : Checkout) (deposit : SecurityDeposit) (remaining : ℤ)
    (razorpayRefundId : Option GatewayRefundId) : Checkout :=
  let s := setDeposit s
    { deposit with
      refundedAmount := remaining
      razorpayRefundId := razorpayRefundId <|> deposit.razorpayRefundId }
  match recordJournal s.ledger (depositReleaseJournal s.booking deposit remaining) with
  | .ok (ledger, _) => { s with ledger }
  | .error _ => s

/-- A deposit that was taken as collateral is not refunded through the payment. -/
def SecurityDeposit.isCollateral (deposit : SecurityDeposit) : Bool :=
  deposit.razorpayPaymentId.any fun id => "COLLATERAL:".isPrefixOf id

def releaseDeposit (config : PaymentConfig) (s : Checkout) (answer : GatewayRefundAnswer)
    (mockId : String) : CheckoutReply (Option SecurityDeposit) :=
  match s.securityDeposit with
  | none => (s, .ok none)
  | some deposit =>
    if deposit.status ≠ .held then
      (s, .error (.conflict "Deposit cannot be released in its status."))
    else
      let remaining := deposit.amount.paise - deposit.deductedAmount
      if remaining ≤ 0 then
        (s, .error (.badRequest "No remaining deposit balance available to refund."))
      else
        let released := { deposit with
          status := if 0 < deposit.deductedAmount then .partiallyRefunded else .refunded }
        let s₁ := setDeposit s released
        if deposit.isCollateral then
          let s₂ := settleRelease s₁ released remaining (some .collateralReleased)
          (s₂, .ok s₂.securityDeposit)
        else
          match refund config s₁ ⟨remaining, none, none⟩ answer mockId with
          | (s₂, .ok reply) =>
            let s₃ := settleRelease s₂ released remaining reply.refundId
            (s₃, .ok s₃.securityDeposit)
          | (s₂, .error _) =>
            (setDeposit s₂ deposit,
              .error (.badRequest "Payment gateway refund failed."))

end CarRental
