import CarRental.Payments.Reconciliation
import CarRental.Payments.Webhook

/-!
# The enterprise reconciliation

`EnterprisePaymentReconciliationService.runReconciliation`: compares the payments of a period
with what their own rows say of the gateway.  It asks no gateway.  With auto-heal on, an unpaid
payment whose row names a gateway payment is set to `PAID`.

`checkInternalPayment` is the loop's body for one payment; a run writes the report of all of them,
and the new status of those that it heals.  Amounts in paise.
-/

namespace CarRental

inductive DiscrepancyType where
  | missingGatewayRecord
  | amountMismatch
  | statusMismatch
deriving DecidableEq, Repr

structure DiscrepancyReport where
  type : DiscrepancyType
  referenceId : Id
  gatewayAmount : Option ℤ
  internalAmount : Option ℤ
  gatewayStatus : Option String
  internalStatus : PaymentStatus
  notes : String
deriving DecidableEq

/-- A payment with the amount that its row has of the gateway. -/
structure ReconciledPayment where
  payment : Payment
  gatewayAmountPaise : Option ℤ
deriving DecidableEq

/-- What the loop makes of a payment. -/
structure PaymentCheck where
  discrepancies : List DiscrepancyReport
  matched : Bool
  heals : Bool
deriving DecidableEq

/-- How an amount is put into a text. -/
abbrev RupeeText := ℤ → String

def missingGatewayRecord (payment : Payment) : DiscrepancyReport where
  type := .missingGatewayRecord
  referenceId := payment.id
  gatewayAmount := none
  internalAmount := some payment.amount.paise
  gatewayStatus := none
  internalStatus := payment.status
  notes := "Internal payment record has no associated gateway order or reference ID"

def amountMismatch (rupees : RupeeText) (payment : Payment) (gatewayPaise : ℤ) :
    DiscrepancyReport where
  type := .amountMismatch
  referenceId := payment.id
  gatewayAmount := some gatewayPaise
  internalAmount := some payment.amount.paise
  gatewayStatus := some "CAPTURED"
  internalStatus := payment.status
  notes := "Discrepancy: Gateway recorded ₹" ++ rupees gatewayPaise ++ " vs internal expected ₹" ++
    rupees payment.amount.paise

def statusMismatch (payment : Payment) : DiscrepancyReport where
  type := .statusMismatch
  referenceId := payment.id
  gatewayAmount := none
  internalAmount := none
  gatewayStatus := some "CAPTURED"
  internalStatus := payment.status
  notes := "Auto-healed: Payment captured on gateway but was stuck in CREATED state internally."

/-- An unpaid payment whose row names a gateway payment, whatever has become of that. -/
def autoHeals (autoHeal : Bool) (payment : Payment) : Bool :=
  (payment.status = .created || payment.status = .pending) &&
    payment.razorpayPaymentId.any (· ≠ "") && autoHeal

/-- A difference of one paisa is let pass. -/
def amountDiscrepancies (rupees : RupeeText) (row : ReconciledPayment) : List DiscrepancyReport :=
  match row.gatewayAmountPaise with
  | none => []
  | some gatewayPaise =>
    if 1 < |gatewayPaise - row.payment.amount.paise| then
      [amountMismatch rupees row.payment gatewayPaise]
    else []

def checkInternalPayment (rupees : RupeeText) (autoHeal : Bool) (row : ReconciledPayment) :
    PaymentCheck :=
  if row.payment.razorpayOrderId = none ∧ row.payment.status ≠ .failed then
    ⟨[missingGatewayRecord row.payment], false, false⟩
  else if autoHeals autoHeal row.payment then
    ⟨amountDiscrepancies rupees row ++ [statusMismatch row.payment], true, true⟩
  else ⟨amountDiscrepancies rupees row, row.payment.status = .paid, false⟩

structure EnterpriseReport where
  exceptionsFound : Bool
  totalTransactions : ℕ
  matchedTransactions : ℕ
  totalAmountGateway : ℤ
  totalAmountInternal : ℤ
  discrepancyAmount : ℤ
  exceptions : List DiscrepancyReport
deriving DecidableEq

/-- The report of a run over the payments of its period. -/
def runReconciliation (rupees : RupeeText) (autoHeal : Bool) (rows : List ReconciledPayment) :
    EnterpriseReport :=
  let matched := rows.filter fun row => (checkInternalPayment rupees autoHeal row).matched
  let exceptions := rows.flatMap fun row => (checkInternalPayment rupees autoHeal row).discrepancies
  let totalInternal := (rows.map fun row => row.payment.amount.paise).sum
  let totalGateway := (matched.map fun row => row.payment.amount.paise).sum
  { exceptionsFound := exceptions ≠ []
    totalTransactions := rows.length
    matchedTransactions := matched.length
    totalAmountGateway := totalGateway
    totalAmountInternal := totalInternal
    discrepancyAmount := |totalInternal - totalGateway|
    exceptions }

/-!
## Payment calls between their reads and their writes

`createOrder`, `verifyPayment`, the events of `handleWebhook` about payments, the reconciliation
of unconfirmed bookings and the enterprise one, for one booking and with any number of calls
under way.  A call reads the payment, may ask the gateway, and writes in a transaction of its
own; between these others go on.  A write finds the row as it is by then, and changes only the
columns that it names.

The gateway's payments are part of the state, and what it answers is what it holds; it may not
answer.  Events are not held against it: a signature of `mock_signature` is accepted for those
of Cashfree and Stripe from anybody.

Events that find no payment, which may pay a vendor's deposit, and those about refunds are left
out, and so is what the calls of other bookings write beyond the shared wallet, coupon and ledger
(`DeskAction.elsewhere`).

Each call that goes on at once does what the function of the same name does (`*_split`).
-/

inductive PaymentCall where
  /-- `createOrder`, for its write. -/
  | ordering (existing : Option PaymentStatus) (newPaymentId : Id) (orderId : OrderId)
      (amount : Money)
  /-- `verifyPayment`, for the gateway. -/
  | verifying (fromStatus : PaymentStatus) (dto : VerifyPaymentDto) (signatureValid : Bool)
  /-- `verifyPayment`, for its transaction. -/
  | settling (fromStatus : PaymentStatus) (dto : VerifyPaymentDto) (gatewayPaid walletRequired : ℤ)
  /-- A payment that the gateway says has failed, for its update. -/
  | failing (paymentId : String)
  /-- A capture event, for its transaction. -/
  | capturing (fromStatus : PaymentStatus) (paymentId : String) (eventId : String)
  /-- An event of a failure, or of an authorization, for its update. -/
  | marking (failed : Bool) (fromStatus : PaymentStatus) (paymentId : String)
  /-- An event, to be closed. -/
  | closing (eventId : String)
  /-- An audit entry. -/
  | auditing (entry : PaymentAuditEntry)
  /-- The reconciliation of a candidate, for the gateway. -/
  | listing (orderId : OrderId)
  /-- The reconciliation of a candidate, for its transaction. -/
  | reconciling (captured : GatewayPayment)
  /-- The enterprise reconciliation, for its update. -/
  | healing
deriving DecidableEq

structure PaymentDesk where
  checkout : Checkout
  /-- The payments that the gateway holds. -/
  gateway : List GatewayPayment
  calls : List PaymentCall
deriving DecidableEq

/-! ## Reads -/

/-- The checks of `createOrder`, and the order that the gateway creates. -/
def readOrder (config : PaymentConfig) (s : Checkout) (customerId : Id) (useWallet : Bool)
    (newPaymentId : Id) (gatewayOrder : Option String) (nonce : String) : Option PaymentCall :=
  if s.booking.customerId ≠ customerId then none
  else if s.booking.status ≠ .pending then none
  else if s.paymentStatus = some .paid ∨ s.paymentStatus = some .refunded then none
  else if quoteMismatch s.booking s.totalExpected then none
  else
    match orderFor config s (walletShare s useWallet) gatewayOrder nonce,
      Column.ofPaise? s.totalExpected with
    | some orderId, some amount => some (.ordering s.paymentStatus newPaymentId orderId amount)
    | _, _ => none

/-- The checks of `verifyPayment` before it asks the gateway. -/
def readVerify (s : Checkout) (customerId : Id) (dto : VerifyPaymentDto) (signatureValid : Bool) :
    Option PaymentCall :=
  if s.booking.customerId ≠ customerId then none
  else
    match s.payment with
    | none => none
    | some payment =>
      if payment.razorpayOrderId ≠ some dto.razorpayOrderId then none
      else if payment.status = .paid then none
      else if payment.status = .refunded then none
      else some (.verifying payment.status dto signatureValid)

/-- What a verification goes on to. -/
def settleCall (config : PaymentConfig) (s : Checkout) (fromStatus : PaymentStatus)
    (dto : VerifyPaymentDto) (signatureValid : Bool) (fetch : PaymentFetch) : Option PaymentCall :=
  match settlement config dto signatureValid fetch s.totalExpected with
  | .refused _ => none
  | .failedAtGateway => some (.failing dto.razorpayPaymentId)
  | .settled gatewayPaid walletRequired => some (.settling fromStatus dto gatewayPaid walletRequired)

def readEvent (s : Checkout) (eventId : String) : WebhookEvent → Option PaymentCall
  | .paymentCaptured (some orderId) paymentId amount currency =>
    match s.payment.filter fun payment => payment.matchesCapture orderId paymentId with
    | none => none
    | some payment =>
      if !currencyIsInr currency then none
      else if !captureAmountMatches payment amount then none
      else if payment.status = .paid then some (.closing eventId)
      else some (.capturing payment.status paymentId eventId)
  | .paymentFailed orderId paymentId =>
    match s.payment.filter fun payment => payment.matchesOrder orderId with
    | none => none
    | some payment =>
      if payment.status = .paid ∨ payment.status = .refunded then none
      else some (.marking true payment.status paymentId)
  | .paymentAuthorized orderId paymentId =>
    match s.payment.filter fun payment => payment.matchesOrder orderId with
    | none => none
    | some payment =>
      if payment.status = .created then some (.marking false payment.status paymentId)
      else none
  | .paymentCaptured none _ _ _ | .refundProcessed _ _ _ | .refundCreated _ _ _
  | .refundFailed _ _ | .ignored => none

/-- A candidate of the reconciliation, with a live gateway and its lock. -/
def readCandidate (config : PaymentConfig) (s : Checkout) (oldEnough lockAcquired : Bool) :
    Option PaymentCall :=
  match s.payment with
  | none => none
  | some payment =>
    if !isCandidate s payment oldEnough then none
    else if !lockAcquired then none
    else if config.useMock then none
    else payment.razorpayOrderId.map .listing

/-- What the reconciliation makes of the gateway's list. -/
def reconcileCall (s : Checkout) (orderId : OrderId) (items : List GatewayPayment) :
    Option PaymentCall :=
  match capturedPayment orderId items with
  | none => none
  | some captured =>
    if !currencyIsInr captured.currency then none
    else if captured.amount ≠ s.totalExpected then none
    else some (.reconciling captured)

/-- The enterprise reconciliation comes by the payment. -/
def readHeal (s : Checkout) (autoHeal : Bool) (gatewayAmountPaise : Option ℤ) :
    Option PaymentCall :=
  match s.payment with
  | none => none
  | some payment =>
    if (checkInternalPayment (fun _ => "") autoHeal ⟨payment, gatewayAmountPaise⟩).heals then
      some .healing
    else none

/-! ## Writes -/

/-- The row as the call that writes it has read its status. -/
def Checkout.readAs (s : Checkout) (fromStatus : PaymentStatus) : Option Payment :=
  s.payment.map fun payment => { payment with status := fromStatus }

/-- The row of an order, which is created where none was read. -/
def writeOrder (s : Checkout) (existing : Option PaymentStatus) (newPaymentId : Id)
    (orderId : OrderId) (amount : Money) : Checkout :=
  -- a row that has come up since is not created again
  if existing.isNone ∧ s.payment.isSome then s
  else
    (s.setPayment (orderedPayment s.payment newPaymentId orderId amount)).audit
      { eventType := if existing.isSome then "PAYMENT_ORDER_RENEWED" else "PAYMENT_ORDER_CREATED"
        fromStatus := existing
        toStatus := .created
        amount := some s.totalExpected
        gatewayReference := none
        source := "CUSTOMER" }

/-- The transaction of a call on the row as it is by then; one that throws writes nothing. -/
def commit (s : Checkout) (fromStatus : PaymentStatus)
    (transaction : Payment → Except HttpError Checkout) : Option Checkout :=
  (s.readAs fromStatus).bind fun payment => (transaction payment).toOption

/-- An update of the row's status, with the gateway's id of the payment. -/
def markPayment (s : Checkout) (status : PaymentStatus) (paymentId : String) : Checkout :=
  match s.payment with
  | none => s
  | some payment => s.setPayment { payment with status, razorpayPaymentId := some paymentId }

def healPayment (s : Checkout) : Checkout :=
  match s.payment with
  | none => s
  | some payment => s.setPayment { payment with status := .paid }

/-- The audit entry that follows an event of a failure, or of an authorization. -/
def markEntry (payment : Payment) (failed : Bool) (fromStatus : PaymentStatus)
    (paymentId : String) : PaymentAuditEntry :=
  if failed then
    webhookAudit "WEBHOOK_PAYMENT_FAILED" { payment with status := fromStatus } .failed none
      paymentId
  else
    webhookAudit "WEBHOOK_PAYMENT_AUTHORIZED" { payment with status := fromStatus } .authorized none
      paymentId

namespace PaymentCall

/-- What the call's transaction leaves, if it has one and that commits. -/
def committed (config : PaymentConfig) (s : Checkout) : PaymentCall → Option Checkout
  | .settling fromStatus dto gatewayPaid walletRequired =>
    commit s fromStatus fun payment =>
      verifyTransaction config s payment dto gatewayPaid walletRequired
  | .capturing fromStatus paymentId _ =>
    commit s fromStatus fun payment => captureTransaction s payment paymentId
  | .reconciling captured =>
    commit s .created fun payment => reconcileTransaction s payment captured
  | .ordering _ _ _ _ | .verifying _ _ _ | .failing _ | .marking _ _ _ | .closing _ | .auditing _
  | .listing _ | .healing => none

/-- What the call writes.  Calls that wait for the gateway write nothing. -/
def write (config : PaymentConfig) (s : Checkout) (call : PaymentCall) : Checkout :=
  match call with
  | .settling _ _ _ _ | .capturing _ _ _ | .reconciling _ => (call.committed config s).getD s
  | .ordering existing newPaymentId orderId amount =>
    writeOrder s existing newPaymentId orderId amount
  | .failing paymentId => markPayment s .failed paymentId
  | .marking failed _ paymentId =>
    markPayment s (if failed then .failed else .authorized) paymentId
  | .closing eventId => markProcessed s eventId
  | .auditing entry => s.audit entry
  | .healing => healPayment s
  | .verifying _ _ _ | .listing _ => s

/-- What is left for it to do then. -/
def next (config : PaymentConfig) (s : Checkout) (call : PaymentCall) : Option PaymentCall :=
  match call with
  | .capturing _ _ eventId => (call.committed config s).map fun _ => .closing eventId
  | .marking failed fromStatus paymentId =>
    s.payment.map fun payment => .auditing (markEntry payment failed fromStatus paymentId)
  | .verifying _ _ _ | .listing _ => some call
  | .ordering _ _ _ _ | .settling _ _ _ _ | .failing _ | .closing _ | .auditing _ | .reconciling _
  | .healing => none

end PaymentCall

/-! ## Calls that go on at once -/

section Split

variable {config : PaymentConfig} {s : Checkout}

/-- The state that a call leaves which finds what it has read. -/
def afterCall (config : PaymentConfig) (s : Checkout) : Option PaymentCall → Checkout
  | none => s
  | some call => call.write config s

theorem commit_of_current {payment : Payment} (hpayment : s.payment = some payment)
    (transaction : Payment → Except HttpError Checkout) :
    commit s payment.status transaction = (transaction payment).toOption := by
  rw [commit, Checkout.readAs, hpayment]
  rfl

theorem createOrder_split (customerId : Id) (useWallet : Bool) (newPaymentId : Id)
    (gatewayOrder : Option String) (nonce : String) :
    (createOrder config s customerId useWallet newPaymentId gatewayOrder nonce).1 =
      afterCall config s
        (readOrder config s customerId useWallet newPaymentId gatewayOrder nonce) := by
  unfold createOrder readOrder
  split
  · rfl
  split
  · rfl
  split
  · rfl
  split
  · rfl
  dsimp only
  cases orderFor config s (walletShare s useWallet) gatewayOrder nonce with
  | none => rfl
  | some orderId =>
    cases Column.ofPaise? s.totalExpected with
    | none => rfl
    | some amount =>
      cases hpayment : s.payment with
      | none => simp [afterCall, PaymentCall.write, writeOrder, Checkout.paymentStatus, hpayment]
      | some payment =>
        simp [afterCall, PaymentCall.write, writeOrder, Checkout.paymentStatus, hpayment]

theorem verifyPayment_split (customerId : Id) (dto : VerifyPaymentDto) (signatureValid : Bool)
    (fetch : PaymentFetch) :
    (verifyPayment config s customerId dto signatureValid fetch).1 =
      match readVerify s customerId dto signatureValid with
      | some (.verifying fromStatus dto signatureValid) =>
        afterCall config s (settleCall config s fromStatus dto signatureValid fetch)
      | _ => s := by
  unfold verifyPayment readVerify
  split
  · rfl
  cases hpayment : s.payment with
  | none => rfl
  | some payment =>
    dsimp only
    by_cases horder : payment.razorpayOrderId ≠ some dto.razorpayOrderId
    · rw [if_pos horder, if_pos horder]
    rw [if_neg horder, if_neg horder]
    by_cases hpaid : payment.status = .paid
    · rw [if_pos hpaid, if_pos hpaid]
      split <;> rfl
    rw [if_neg hpaid, if_neg hpaid]
    by_cases hrefunded : payment.status = .refunded
    · rw [if_pos hrefunded, if_pos hrefunded]
    rw [if_neg hrefunded, if_neg hrefunded]
    dsimp only
    unfold settleCall
    cases settlement config dto signatureValid fetch s.totalExpected with
    | refused e => rfl
    | failedAtGateway => simp [afterCall, PaymentCall.write, markPayment, hpayment]
    | settled gatewayPaid walletRequired =>
      dsimp only [afterCall, PaymentCall.write, PaymentCall.committed]
      rw [commit_of_current hpayment]
      cases verifyTransaction config s payment dto gatewayPaid walletRequired <;> rfl

theorem reconcileCandidate_split (oldEnough lockAcquired : Bool)
    (orderPayments : Option (List GatewayPayment)) :
    (reconcileCandidate config s oldEnough lockAcquired orderPayments).1 =
      match readCandidate config s oldEnough lockAcquired, orderPayments with
      | some (.listing orderId), some items => afterCall config s (reconcileCall s orderId items)
      | _, _ => s := by
  unfold reconcileCandidate readCandidate
  cases hpayment : s.payment with
  | none => rfl
  | some payment =>
    dsimp only
    by_cases hcandidate : isCandidate s payment oldEnough = true
    · have hcreated : payment.status = .created := by
        simp only [isCandidate, Bool.and_eq_true, decide_eq_true_eq] at hcandidate
        exact hcandidate.1.1.1
      simp only [hcandidate, Bool.not_true, Bool.false_eq_true, if_false]
      cases lockAcquired with
      | false => rfl
      | true =>
        simp only [Bool.not_true, Bool.false_eq_true, if_false]
        by_cases hmock : config.useMock = true
        · simp [hmock]
        simp only [hmock, Bool.false_eq_true, if_false]
        cases orderPayments with
        | none => cases payment.razorpayOrderId <;> rfl
        | some items =>
          cases payment.razorpayOrderId with
          | none => rfl
          | some orderId =>
            dsimp only [Option.map_some]
            unfold reconcileCall
            cases capturedPayment orderId items with
            | none => rfl
            | some captured =>
              dsimp only
              by_cases hcurrency : !currencyIsInr captured.currency
              · rw [if_pos hcurrency, if_pos hcurrency]
                rfl
              rw [if_neg hcurrency, if_neg hcurrency]
              by_cases hamount : captured.amount ≠ s.totalExpected
              · rw [if_pos hamount, if_pos hamount]
                rfl
              rw [if_neg hamount, if_neg hamount]
              dsimp only [afterCall, PaymentCall.write, PaymentCall.committed]
              rw [← hcreated, commit_of_current hpayment]
              cases reconcileTransaction s payment captured <;> rfl
    · simp only [hcandidate, Bool.not_false, if_true]

end Split

/-! ## Steps -/

inductive DeskAction where
  | createOrder (customerId : Id) (useWallet : Bool) (newPaymentId : Id)
      (gatewayOrder : Option String) (nonce : String)
  | verifyPayment (customerId : Id) (dto : VerifyPaymentDto) (signatureValid : Bool)
  /-- An event with an accepted signature; its row may be refused for another reason than that it
  is there. -/
  | webhook (eventId : String) (event : WebhookEvent) (inserts : Bool)
  | reconcileUnconfirmed (oldEnough lockAcquired : Bool)
  | runReconciliation (autoHeal : Bool) (gatewayAmountPaise : Option ℤ)
  /-- The gateway answers the call, or does not. -/
  | gatewayAnswers (i : ℕ) (reachable : Bool)
  | write (i : ℕ)
  /-- The process of the call ends. -/
  | crash (i : ℕ)
  /-- The gateway holds a new payment, or has got on with one. -/
  | gatewayPays (payment : GatewayPayment)
  /-- What the calls of other bookings write. -/
  | elsewhere (wallet : Wallet) (coupon : Option Coupon) (couponUsages : List CouponUsage)
      (ledger : Ledger JournalKey)

def checkoutDebitKey (s : Checkout) : String := "wallet_checkout_debit_" ++ s.booking.id

namespace PaymentDesk

def addCall (d : PaymentDesk) (call : Option PaymentCall) : PaymentDesk :=
  { d with calls := d.calls ++ call.toList }

def replaceCall (d : PaymentDesk) (i : ℕ) (call : Option PaymentCall) : PaymentDesk :=
  { d with calls := d.calls.eraseIdx i ++ call.toList }

def receive (d : PaymentDesk) (eventId : String) (event : WebhookEvent) (inserts : Bool) :
    PaymentDesk :=
  if !inserts then d.addCall (readEvent d.checkout eventId event)
  else if eventRecorded d.checkout eventId then d
  else
    ({ d with checkout := recordEvent d.checkout eventId }).addCall
      (readEvent (recordEvent d.checkout eventId) eventId event)

/-- The gateway's answer to a fetch. -/
def fetch (d : PaymentDesk) (paymentId : String) (reachable : Bool) : PaymentFetch :=
  if !reachable then .error "unreachable"
  else
    match d.gateway.find? fun payment => payment.id = paymentId with
    | some payment => .found payment
    | none => .missing

def answer (config : PaymentConfig) (d : PaymentDesk) (i : ℕ) (reachable : Bool) : PaymentDesk :=
  match d.calls[i]? with
  | some (.verifying fromStatus dto signatureValid) =>
    d.replaceCall i (settleCall config d.checkout fromStatus dto signatureValid
      (d.fetch dto.razorpayPaymentId reachable))
  | some (.listing orderId) =>
    d.replaceCall i
      (if reachable then reconcileCall d.checkout orderId d.gateway else none)
  | _ => d

def write (config : PaymentConfig) (d : PaymentDesk) (i : ℕ) : PaymentDesk :=
  match d.calls[i]? with
  | none => d
  | some call =>
    ({ d with checkout := call.write config d.checkout }).replaceCall i
      (call.next config d.checkout)

/-- A payment that is captured stays so. -/
def pay (d : PaymentDesk) (payment : GatewayPayment) : PaymentDesk :=
  if d.gateway.any fun held => held.id = payment.id ∧ held.status = .captured then d
  else { d with gateway := payment :: d.gateway.filter fun held => held.id ≠ payment.id }

/-- Other bookings have keys of their own in the wallet and in the ledger. -/
def elsewhere (d : PaymentDesk) (wallet : Wallet) (coupon : Option Coupon)
    (couponUsages : List CouponUsage) (ledger : Ledger JournalKey) : PaymentDesk :=
  if wallet.findEntry (checkoutDebitKey d.checkout) =
        d.checkout.wallet.findEntry (checkoutDebitKey d.checkout) ∧
      ledger.rowsOf (.payVerify d.checkout.booking.id) =
        d.checkout.ledger.rowsOf (.payVerify d.checkout.booking.id) then
    { d with checkout := { d.checkout with wallet, coupon, couponUsages, ledger } }
  else d

end PaymentDesk

def callStep (config : PaymentConfig) (d : PaymentDesk) : DeskAction → PaymentDesk
  | .createOrder customerId useWallet newPaymentId gatewayOrder nonce =>
    d.addCall (readOrder config d.checkout customerId useWallet newPaymentId gatewayOrder nonce)
  | .verifyPayment customerId dto signatureValid =>
    d.addCall (readVerify d.checkout customerId dto signatureValid)
  | .webhook eventId event inserts => d.receive eventId event inserts
  | .reconcileUnconfirmed oldEnough lockAcquired =>
    d.addCall (readCandidate config d.checkout oldEnough lockAcquired)
  | .runReconciliation autoHeal gatewayAmountPaise =>
    d.addCall (readHeal d.checkout autoHeal gatewayAmountPaise)
  | .gatewayAnswers i reachable => d.answer config i reachable
  | .write i => d.write config i
  | .crash i => d.replaceCall i none
  | .gatewayPays payment => d.pay payment
  | .elsewhere wallet coupon couponUsages ledger => d.elsewhere wallet coupon couponUsages ledger

end CarRental
