import CarRental.Pricing.QuoteAcceptance

/-!
# The marketplace's checkout

`CheckoutOrchestratorService`: a session holds a quote, may get a new one with other addons, issues
an order at a payment provider and is confirmed when the payment is verified.

Each call reads its session first and writes it later, by its id and whatever it has become; in
between come the quote service, a provider, other calls and the clock.  A call is split where it
reads and where it writes.

The providers' orders and the payments that they have captured are part of the desk, as is the order
that a session was really issued (`lastOrder`).  The service sees none of this: it has the answers
of the integration runtime, and of those it reads `orderId`, `id` and `verified`.
-/

namespace CarRental.Marketplace

open KeyedRows

/-! ## The tables -/

inductive CheckoutSessionStatus where
  | draft
  | quoteLocked
  | paymentPending
  | paymentProcessing
  | confirmed
  | paymentFailed
  | expired
  | cancelled
deriving DecidableEq, Repr

structure ProviderOrder where
  providerId : String
  orderId : String
  amountPaise : ℤ
deriving DecidableEq

/-- A payment that a provider has captured. -/
structure Capture where
  providerId : String
  orderId : String
  paymentId : String
  amountPaise : ℤ
deriving DecidableEq

structure CheckoutSession where
  sessionId : Id
  customerId : Id
  quoteId : Id
  status : CheckoutSessionStatus
  selectedPaymentProvider : Option String
  paymentAttempts : ℕ
  /-- `metadata.activeOrderId` -/
  activeOrderId : Option String
  lastOrder : Option ProviderOrder
  bookingId : Option Id
  expiresAt : ℤ
deriving DecidableEq

structure CheckoutBooking where
  id : Id
  sessionId : Id
  quoteId : Id
  customerId : Id
  carId : Id
  startDate : ℤ
  endDate : ℤ
  price : BookedPrice
deriving DecidableEq

/-- A row of `Payment`: of the checkout, or of a booking that it has not created. -/
structure CheckoutPayment where
  bookingId : Id
  razorpayOrderId : Option String
  razorpayPaymentId : Option String
  amount : Money
  gatewayProvider : String
deriving DecidableEq

structure VerificationPayload where
  orderId : Option String
  paymentId : Option String
deriving DecidableEq

/-! ## Calls under way -/

/-- `configureAddons` after its read, and with the new quote once it has one. -/
structure PendingConfiguration where
  session : CheckoutSession
  quote : BookingQuote
  renewedId : Option Id
deriving DecidableEq

/-- `initiatePayment` after its read. -/
structure PendingInitiation where
  session : CheckoutSession
  quote : BookingQuote
deriving DecidableEq

/-- `verifyAndConfirmPayment` after the provider's answer; `lookedUp` when its transaction has found
no payment with that id. -/
structure PendingVerification where
  session : CheckoutSession
  quote : BookingQuote
  payload : VerificationPayload
  lookedUp : Bool
deriving DecidableEq

structure CheckoutDesk where
  quotes : List BookingQuote
  sessions : List CheckoutSession
  bookings : List CheckoutBooking
  payments : List CheckoutPayment
  orders : List ProviderOrder
  captures : List Capture
  now : ℤ
  /-- The sessions that `assertActiveSession` is about to mark `EXPIRED`. -/
  expiries : List Id
  configurations : List PendingConfiguration
  initiations : List PendingInitiation
  verifications : List PendingVerification
deriving DecidableEq

namespace CheckoutDesk

def quote? (desk : CheckoutDesk) (quoteId : Id) : Option BookingQuote :=
  desk.quotes.find? fun quote => quote.id = quoteId

def session? (desk : CheckoutDesk) (sessionId customerId : Id) : Option CheckoutSession :=
  desk.sessions.find? fun session =>
    session.sessionId = sessionId ∧ session.customerId = customerId

def updateSession (desk : CheckoutDesk) (sessionId : Id) (f : CheckoutSession → CheckoutSession) :
    CheckoutDesk :=
  { desk with sessions := updateKey CheckoutSession.sessionId sessionId f desk.sessions }

def updateQuote (desk : CheckoutDesk) (quoteId : Id) (f : BookingQuote → BookingQuote) :
    CheckoutDesk :=
  { desk with quotes := updateKey BookingQuote.id quoteId f desk.quotes }

end CheckoutDesk

/-! ## Quotes and sessions -/

/-- `createQuote` stores an active quote, for the customer who asked. -/
def createQuote (desk : CheckoutDesk) (quote : BookingQuote) : CheckoutDesk :=
  if quote.id ∈ desk.quotes.map BookingQuote.id then desk
  else { desk with
    quotes := desk.quotes ++ [{ quote with status := .active, issuedTo := quote.customerId }] }

/-- The quote has to be active and unexpired (`getVerifiedQuote`); whose it is does not matter. -/
def createCheckoutSession (desk : CheckoutDesk) (sessionId customerId quoteId : Id) : CheckoutDesk :=
  match desk.quote? quoteId with
  | none => desk
  | some quote =>
    if quote.status ≠ .active then desk
    else if quote.expiresAt < desk.now then desk.updateQuote quoteId expireQuote
    else if sessionId ∈ desk.sessions.map CheckoutSession.sessionId then desk
    else { desk with
      sessions := desk.sessions ++
        [⟨sessionId, customerId, quoteId, .quoteLocked, none, 0, none, none, none,
          quote.expiresAt⟩] }

inductive SessionCheck where
  | refused (error : HttpError)
  | expired
  | active (session : CheckoutSession) (quote : BookingQuote)

/-- The read of `assertActiveSession`; a session that is found expired is marked as such by a write
of its own. -/
def assertActiveSession (desk : CheckoutDesk) (sessionId customerId : Id) : SessionCheck :=
  match desk.session? sessionId customerId with
  | none => .refused (.notFound ("Checkout session '" ++ sessionId ++ "' not found."))
  | some session =>
    if session.status = .confirmed then
      .refused (.conflict "This checkout session has already been completed.")
    else if session.status = .expired ∨ session.expiresAt < desk.now then .expired
    else
      match desk.quote? session.quoteId with
      | none => .refused (.internal "Inconsistent query result")
      | some quote => .active session quote

def markExpired (session : CheckoutSession) : CheckoutSession := { session with status := .expired }

/-- The write of `assertActiveSession`, which does not look at the status again. -/
def writeExpiry (desk : CheckoutDesk) (sessionId : Id) : CheckoutDesk :=
  { desk.updateSession sessionId markExpired with expiries := desk.expiries.erase sessionId }

/-! ## Addons -/

def beginConfiguration (desk : CheckoutDesk) (sessionId customerId : Id) : CheckoutDesk :=
  match assertActiveSession desk sessionId customerId with
  | .refused _ => desk
  | .expired => { desk with expiries := sessionId :: desk.expiries }
  | .active session quote =>
    { desk with configurations := ⟨session, quote, none⟩ :: desk.configurations }

/-- `refreshQuote`: the old quote is superseded, and `renewed` has the id, price and expiry of the
new one, which is issued to the customer of the session. -/
def renewQuote (desk : CheckoutDesk) (call : PendingConfiguration) (renewed : BookingQuote) :
    CheckoutDesk :=
  if renewed.id ∈ desk.quotes.map BookingQuote.id then
    { desk with configurations := desk.configurations.erase call }
  else
    let superseded :=
      if call.quote.status = .active ∨ call.quote.status = .expired then
        desk.updateQuote call.quote.id supersedeQuote
      else desk
    { createQuote superseded
        { renewed with
          customerId := some call.session.customerId
          carId := call.quote.carId
          tripType := call.quote.tripType
          startDate := call.quote.startDate
          endDate := call.quote.endDate } with
      configurations := { call with renewedId := some renewed.id } ::
        desk.configurations.erase call }

/-- What `configureAddons` writes; its metadata are those that it has read. -/
def requote (call : PendingConfiguration) (renewedId : Id) (session : CheckoutSession) :
    CheckoutSession :=
  { session with
    quoteId := renewedId
    activeOrderId := call.session.activeOrderId }

/-- The write of `configureAddons`: the session moves to the new quote. -/
def finishConfiguration (desk : CheckoutDesk) (call : PendingConfiguration) (renewedId : Id) :
    CheckoutDesk :=
  { desk.updateSession call.session.sessionId (requote call renewedId) with
    configurations := desk.configurations.erase call }

/-! ## The order -/

def beginInitiation (desk : CheckoutDesk) (sessionId customerId : Id) : CheckoutDesk :=
  match assertActiveSession desk sessionId customerId with
  | .refused _ => desk
  | .expired => { desk with expiries := sessionId :: desk.expiries }
  | .active session quote => { desk with initiations := ⟨session, quote⟩ :: desk.initiations }

/-- The answer of the runtime to `CREATE_ORDER`; `named` is the `orderId` or `id` in its data, if
there is one. -/
inductive OrderReply where
  | failed
  | created (providerId orderId : String) (named : Option String)
  /-- The answer to an earlier call with the same key. -/
  | cached (order : ProviderOrder) (named : Option String)

/-- `Math.round(totalAmount * 100)` -/
def PendingInitiation.amountPaise (call : PendingInitiation) : ℤ := call.quote.price.totalPayable.paise

/-- What `initiatePayment` writes.  The provider is the one that was preferred, not the one that
has answered. -/
def markPending (order : ProviderOrder) (primaryProviderId orderId : String)
    (session : CheckoutSession) : CheckoutSession :=
  { session with
    status := .paymentPending
    selectedPaymentProvider := some primaryProviderId
    paymentAttempts := session.paymentAttempts + 1
    activeOrderId := some orderId
    lastOrder := some order }

/-- The rest of `initiatePayment`, with the time at which it makes up an id for an order whose
answer names none. -/
def finishInitiation (desk : CheckoutDesk) (call : PendingInitiation) (primaryProviderId : String)
    (reply : OrderReply) : CheckoutDesk :=
  let closed := { desk with initiations := desk.initiations.erase call }
  let issue (order : ProviderOrder) (named : Option String) : CheckoutDesk :=
    closed.updateSession call.session.sessionId
      (markPending order primaryProviderId (named.getD ("ord_" ++ toString desk.now)))
  match reply with
  | .failed => closed
  | .created providerId orderId named =>
    if orderId ∈ desk.orders.map ProviderOrder.orderId then closed
    else
      let order : ProviderOrder := ⟨providerId, orderId, call.amountPaise⟩
      { issue order named with orders := desk.orders ++ [order] }
  | .cached order named => if order ∈ desk.orders then issue order named else closed

def capture (desk : CheckoutDesk) (order : ProviderOrder) (paymentId : String) : CheckoutDesk :=
  if order ∈ desk.orders ∧ paymentId ∉ desk.captures.map Capture.paymentId then
    { desk with
      captures := desk.captures ++
        [⟨order.providerId, order.orderId, paymentId, order.amountPaise⟩] }
  else desk

/-! ## Verification -/

/-- The answer of the runtime to `VERIFY_PAYMENT`.  The adapters put their verdict into `isValid`,
and none sets `verified`. -/
structure VerifyReply where
  success : Bool
  isValid : Bool
  verified : Option Bool
deriving DecidableEq

/-- What the service makes of it: `isValid` is not read. -/
def VerifyReply.accepted (reply : VerifyReply) : Bool := reply.success ∧ reply.verified ≠ some false

/-- Signatures over an order and a payment are not forged. -/
def VerifyReply.genuine (desk : CheckoutDesk) (payload : VerificationPayload) (reply : VerifyReply) :
    Bool :=
  !reply.isValid || desk.captures.any fun payment =>
    payload.orderId = some payment.orderId ∧ payload.paymentId = some payment.paymentId

/-- Up to the transaction.  A confirmed session is answered with its booking. -/
def beginVerification (desk : CheckoutDesk) (sessionId customerId : Id)
    (payload : VerificationPayload) (reply : VerifyReply) : CheckoutDesk :=
  match desk.session? sessionId customerId with
  | none => desk
  | some session =>
    if session.status = .confirmed ∧ session.bookingId.isSome then desk
    else
      match desk.quote? session.quoteId with
      | none => desk
      | some quote =>
        if !reply.accepted then desk
        else { desk with
          verifications := ⟨session, quote, payload, false⟩ :: desk.verifications }

/-- The transaction's look for the payment; an empty id is not looked for. -/
def lookUpPayment (desk : CheckoutDesk) (call : PendingVerification) : CheckoutDesk :=
  let others := desk.verifications.erase call
  if (call.payload.paymentId.filter (· ≠ "")).any fun paymentId =>
      desk.payments.any fun payment => payment.razorpayPaymentId = some paymentId then
    { desk with verifications := others }
  else { desk with verifications := { call with lookedUp := true } :: others }

namespace PendingVerification

/-- `orderId || activeOrderId` -/
def recordedOrderId (call : PendingVerification) : Option String :=
  (call.payload.orderId.filter (· ≠ "")).or call.session.activeOrderId

def booking (call : PendingVerification) (newId : Id) : CheckoutBooking where
  id := newId
  sessionId := call.session.sessionId
  quoteId := call.quote.id
  customerId := call.session.customerId
  carId := call.quote.carId
  startDate := call.quote.startDate
  endDate := call.quote.endDate
  price := call.quote.price.checkedOut

def payment (call : PendingVerification) (newId : Id) : CheckoutPayment where
  bookingId := newId
  razorpayOrderId := call.recordedOrderId
  razorpayPaymentId := call.payload.paymentId
  amount := call.quote.price.totalPayable
  gatewayProvider := call.session.selectedPaymentProvider.getD "RAZORPAY"

end PendingVerification

def markConfirmed (bookingId : Id) (session : CheckoutSession) : CheckoutSession :=
  { session with
    status := .confirmed
    bookingId := some bookingId }

/-- The order id is not recorded yet: the column is unique. -/
def orderUnused (desk : CheckoutDesk) (orderId : Option String) : Bool :=
  orderId = none ∨ ∀ payment ∈ desk.payments, payment.razorpayOrderId ≠ orderId

/-- Nothing in the transaction fails, its journal included, and its rows can be inserted. -/
def commits (desk : CheckoutDesk) (call : PendingVerification) (newId : Id) (failed : Bool) : Bool :=
  call ∈ desk.verifications ∧ call.lookedUp = true ∧ failed = false ∧
    newId ∉ desk.bookings.map CheckoutBooking.id ∧ orderUnused desk call.recordedOrderId = true

/-- The writes of the transaction. -/
def confirm (desk : CheckoutDesk) (call : PendingVerification) (newId : Id) : CheckoutDesk :=
  { (desk.updateQuote call.quote.id markAccepted).updateSession call.session.sessionId
      (markConfirmed newId) with
    bookings := desk.bookings ++ [call.booking newId]
    payments := desk.payments ++ [call.payment newId]
    verifications := desk.verifications.erase call }

def commitVerification (desk : CheckoutDesk) (call : PendingVerification) (newId : Id)
    (failed : Bool) : CheckoutDesk :=
  if commits desk call newId failed then confirm desk call newId
  else if call ∈ desk.verifications ∧ call.lookedUp = true then
    { desk with verifications := desk.verifications.erase call }
  else desk

def markFailed (session : CheckoutSession) : CheckoutSession :=
  { session with status := .paymentFailed }

/-- Writes the session whatever its status. -/
def handlePaymentFailure (desk : CheckoutDesk) (sessionId customerId : Id) : CheckoutDesk :=
  match desk.session? sessionId customerId with
  | none => desk
  | some _ => desk.updateSession sessionId markFailed

/-! ## Steps -/

inductive CheckoutAction where
  | createQuote (quote : BookingQuote)
  | expireQuote (quoteId : Id)
  | supersedeQuote (quoteId : Id)
  | createCheckoutSession (sessionId customerId quoteId : Id)
  | writeExpiry (sessionId : Id)
  | beginConfiguration (sessionId customerId : Id)
  | renewQuote (call : PendingConfiguration) (renewed : BookingQuote)
  | finishConfiguration (call : PendingConfiguration) (renewedId : Id)
  | beginInitiation (sessionId customerId : Id)
  | finishInitiation (call : PendingInitiation) (primaryProviderId : String) (reply : OrderReply)
  | capture (order : ProviderOrder) (paymentId : String)
  | beginVerification (sessionId customerId : Id) (payload : VerificationPayload)
      (reply : VerifyReply)
  | lookUpPayment (call : PendingVerification)
  | commitVerification (call : PendingVerification) (newId : Id) (failed : Bool)
  | handlePaymentFailure (sessionId customerId : Id)
  /-- A payment that is recorded elsewhere. -/
  | recordPayment (payment : CheckoutPayment)
  | advance (milliseconds : ℕ)

def checkoutStep (desk : CheckoutDesk) : CheckoutAction → CheckoutDesk
  | .createQuote quote => createQuote desk quote
  | .expireQuote quoteId => desk.updateQuote quoteId CarRental.expireQuote
  | .supersedeQuote quoteId => desk.updateQuote quoteId CarRental.supersedeQuote
  | .createCheckoutSession sessionId customerId quoteId =>
    createCheckoutSession desk sessionId customerId quoteId
  | .writeExpiry sessionId => if sessionId ∈ desk.expiries then writeExpiry desk sessionId else desk
  | .beginConfiguration sessionId customerId => beginConfiguration desk sessionId customerId
  | .renewQuote call renewed =>
    if call ∈ desk.configurations ∧ call.renewedId = none then renewQuote desk call renewed
    else desk
  | .finishConfiguration call renewedId =>
    if call ∈ desk.configurations ∧ call.renewedId = some renewedId then
      finishConfiguration desk call renewedId
    else desk
  | .beginInitiation sessionId customerId => beginInitiation desk sessionId customerId
  | .finishInitiation call primaryProviderId reply =>
    if call ∈ desk.initiations then finishInitiation desk call primaryProviderId reply else desk
  | .capture order paymentId => capture desk order paymentId
  | .beginVerification sessionId customerId payload reply =>
    if reply.genuine desk payload then beginVerification desk sessionId customerId payload reply
    else desk
  | .lookUpPayment call =>
    if call ∈ desk.verifications ∧ call.lookedUp = false then lookUpPayment desk call else desk
  | .commitVerification call newId failed => commitVerification desk call newId failed
  | .handlePaymentFailure sessionId customerId => handlePaymentFailure desk sessionId customerId
  | .recordPayment payment => { desk with payments := desk.payments ++ [payment] }
  | .advance milliseconds => { desk with now := desk.now + milliseconds }

/-- A desk on which nothing has happened. -/
def CheckoutDesk.opened (now : ℤ) : CheckoutDesk := ⟨[], [], [], [], [], [], now, [], [], [], []⟩

end CarRental.Marketplace
