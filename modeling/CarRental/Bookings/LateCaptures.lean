import CarRental.Bookings.Cancellation
import CarRental.Bookings.HandoverOtp
import CarRental.Payments.Webhook

/-!
# A booking and the calls under way on it

The expiry sweep, the customer's cancellation, `verifyPayment` and the webhook of a capture, each cut
where it waits: at what it reads of the booking and its payment, and at what it writes after that.

A call that writes later keeps what it has read.  Of the payment that is its status: no call here
changes the amount of a payment or its order.  The lock of the booking that `executeTransition` takes
runs out by itself, so it is not counted on.
-/

namespace CarRental

/-! ## Transitions -/

/-- The two ways in which a booking comes to its end here. -/
inductive Ending where
  | expire
  | cancel (request : CancelRequest)
deriving DecidableEq

def Ending.target : Ending → BookingStatus
  | .expire => .expired
  | .cancel _ => .cancelled

/-- A transition that has read its booking and passed the checks. -/
structure OpenTransition where
  read : Checkout
  ending : Ending
deriving DecidableEq

/-- `executeTransition` before its transaction; the platform expires, and may. -/
def startEnding (terms : TripTerms) (s : Checkout) (ending : Ending) : Option OpenTransition :=
  if s.booking.status = ending.target ∨ ending.target ∉ lifecycleMatrix s.booking.status then none
  else
    match ending with
    | .expire => some ⟨s, .expire⟩
    | .cancel request =>
      match validateAuthorization s.booking terms.vendorUserId request.actorId
          request.actorRole with
      | .ok () => some ⟨s, .cancel request⟩
      | .error _ => none

namespace OpenTransition

/-- What is to go back to the customer, in paise. -/
def refundPaise (terms : TripTerms) (t : OpenTransition) : ℤ :=
  match t.ending with
  | .expire => 0
  | .cancel request => cancelRefund t.read terms request

/-- The transaction, unless the status has changed or a write fails.  It does not look at the payment
again. -/
def write (terms : TripTerms) (t : OpenTransition) (s : Checkout) : Option Checkout :=
  if s.booking.status ≠ t.read.booking.status then none
  else
    match t.ending with
    | .expire => some { s with booking := { s.booking with status := .expired } }
    | .cancel request =>
      match cancelTransaction { s with payment := t.read.payment } (t.refundPaise terms)
          request.now with
      | .ok s' => some { s' with payment := s.payment }
      | .error _ => none

end OpenTransition

/-! ## The refund of a cancellation -/

inductive RefundProgress where
  | asked
  | sent
  | answered (reply : Except HttpError RefundReply)
deriving DecidableEq

/-- The call of `refund` after a cancellation, for what is positive. -/
structure OpenRefund where
  refundPaise : ℤ
  progress : RefundProgress
deriving DecidableEq

/-- `refund` before it asks the gateway. -/
def lookUpRefund (s : Checkout) (refundPaise : ℤ) : RefundProgress :=
  match s.payment with
  | none => .answered (.ok ⟨none, 0, .none, false⟩)
  | some payment =>
    if payment.status ≠ .paid then
      .answered (.ok ⟨payment.razorpayRefundId, payment.refundAmount.getD 0,
        payment.refundStatus, false⟩)
    else if payment.amount.paise < refundPaise then
      .answered (.error (.badRequest "Refund amount cannot exceed payment amount."))
    else
      match findRefund s (defaultRefundKey s payment) with
      | some existing =>
        .answered (.ok ⟨existing.gatewayRefundId,
          existing.processedAmount.getD existing.requestedAmount, existing.status, true⟩)
      | none => .sent

def sendRefund (config : PaymentConfig) (s : Checkout) (payment : Payment) (refundPaise : ℤ)
    (answer : GatewayRefundAnswer) (mockId : String) : CheckoutReply RefundReply :=
  match gatewayRefund config s payment (gatewayRefundPart s payment refundPaise) answer mockId with
  | .error e => (s, .error e)
  | .ok (s₁, refundId, status) =>
    match walletRefund config s₁ payment (walletRefundPart s payment refundPaise) with
    | .error e => (s₁, .error e)
    | .ok s₂ =>
      (recordRefund s₂ payment refundPaise (defaultRefundKey s payment) none refundId status,
        .ok ⟨some refundId, refundPaise, status, false⟩)

/-- The rows once `refund` has answered. -/
def closeIntents (s : Checkout) : Except HttpError RefundReply → Checkout
  | .ok reply => { s with refunds := settleRefunds s.refunds reply }
  | .error _ => { s with refunds := s.refunds.map PaymentRefund.markRetryable }

/-! ## Payments -/

/-- A verification that the gateway has answered. -/
structure OpenVerification where
  readStatus : PaymentStatus
  dto : VerifyPaymentDto
  settlement : Settlement
deriving DecidableEq

/-- `verifyPayment` before it writes. -/
def startVerification (config : PaymentConfig) (s : Checkout) (customerId : Id)
    (dto : VerifyPaymentDto) (signatureValid : Bool) (fetch : PaymentFetch) :
    Option OpenVerification :=
  if s.booking.customerId ≠ customerId then none
  else
    match s.payment with
    | none => none
    | some payment =>
      if payment.razorpayOrderId ≠ some dto.razorpayOrderId ∨ payment.status = .paid ∨
          payment.status = .refunded then none
      else
        match settlement config dto signatureValid fetch s.totalExpected with
        | .refused _ => none
        | answer => some ⟨payment.status, dto, answer⟩

/-- The row with the status that was read before. -/
def Payment.asRead (payment : Payment) (readStatus : PaymentStatus) : Payment :=
  { payment with status := readStatus }

namespace OpenVerification

/-- The transaction goes through. -/
def commits (config : PaymentConfig) (v : OpenVerification) (s : Checkout) : Bool :=
  match s.payment, v.settlement with
  | some payment, .settled gatewayPaid walletRequired =>
    (verifyTransaction config s (payment.asRead v.readStatus) v.dto gatewayPaid
      walletRequired).isOk
  | _, _ => false

def write (config : PaymentConfig) (v : OpenVerification) (s : Checkout) : Checkout :=
  match s.payment, v.settlement with
  | some payment, .failedAtGateway =>
    s.setPayment
      { payment with status := .failed, razorpayPaymentId := some v.dto.razorpayPaymentId }
  | some payment, .settled gatewayPaid walletRequired =>
    match verifyTransaction config s (payment.asRead v.readStatus) v.dto gatewayPaid
        walletRequired with
    | .ok s' => s'
    | .error _ => s
  | _, _ => s

end OpenVerification

/-- A capture event that has found its payment unpaid. -/
structure OpenCapture where
  readStatus : PaymentStatus
  eventId : String
  paymentId : String
deriving DecidableEq

/-- `handleWebhook` for a capture, up to its transaction. -/
def receiveCapture (s : Checkout) (eventId : String) (orderId : OrderId) (paymentId : String)
    (amount : Option ℤ) (currency : Option String) : Checkout × Option OpenCapture :=
  if eventRecorded s eventId then (s, none)
  else
    let recorded := recordEvent s eventId
    match recorded.payment.filter fun payment => payment.matchesCapture orderId paymentId with
    | none => ((vendorDepositRun recorded orderId paymentId).1.getLastD recorded, none)
    | some payment =>
      if !currencyIsInr currency then (recorded, none)
      else if !captureAmountMatches payment amount then (recorded, none)
      else if payment.status = .paid then (markProcessed recorded eventId, none)
      else (recorded, some ⟨payment.status, eventId, paymentId⟩)

namespace OpenCapture

def commits (c : OpenCapture) (s : Checkout) : Bool :=
  match s.payment with
  | none => false
  | some payment => (captureTransaction s (payment.asRead c.readStatus) c.paymentId).isOk

/-- The transaction, and the close of the event. -/
def write (c : OpenCapture) (s : Checkout) : Checkout :=
  match s.payment with
  | none => s
  | some payment =>
    match captureTransaction s (payment.asRead c.readStatus) c.paymentId with
    | .ok s' => markProcessed s' c.eventId
    | .error _ => s

end OpenCapture

/-! ## Without interruption

A call that nothing comes between does what the whole function does. -/

section Uninterrupted

variable (config : PaymentConfig) (terms : TripTerms) (s : Checkout)

theorem verifyPayment_eq_write (customerId : Id) (dto : VerifyPaymentDto) (signatureValid : Bool)
    (fetch : PaymentFetch) :
    (verifyPayment config s customerId dto signatureValid fetch).1 =
      match startVerification config s customerId dto signatureValid fetch with
      | none => s
      | some v => v.write config s := by
  unfold verifyPayment startVerification
  split
  · rfl
  cases hpayment : s.payment with
  | none => rfl
  | some payment =>
    dsimp only
    by_cases horder : payment.razorpayOrderId ≠ some dto.razorpayOrderId
    · rw [if_pos horder, if_pos (Or.inl horder)]
    by_cases hpaid : payment.status = .paid
    · have hskip : payment.razorpayOrderId ≠ some dto.razorpayOrderId ∨ payment.status = .paid ∨
          payment.status = .refunded := .inr (.inl hpaid)
      rw [if_pos hskip, if_neg horder, if_pos hpaid]
      split <;> rfl
    by_cases hrefunded : payment.status = .refunded
    · have hskip : payment.razorpayOrderId ≠ some dto.razorpayOrderId ∨ payment.status = .paid ∨
          payment.status = .refunded := .inr (.inr hrefunded)
      rw [if_pos hskip, if_neg horder, if_neg hpaid, if_pos hrefunded]
    rw [if_neg horder, if_neg hpaid, if_neg hrefunded,
      if_neg (not_or.mpr ⟨horder, not_or.mpr ⟨hpaid, hrefunded⟩⟩)]
    cases settlement config dto signatureValid fetch s.totalExpected with
    | refused e => rfl
    | failedAtGateway =>
      simp only [OpenVerification.write, hpayment]
    | settled gatewayPaid walletRequired =>
      simp only [OpenVerification.write, hpayment]
      change (match verifyTransaction config s payment dto gatewayPaid walletRequired with
        | .ok s' => (s', Except.ok (VerifyReply.mk false))
        | .error e => (s, .error e)).1 =
        match verifyTransaction config s payment dto gatewayPaid walletRequired with
        | .ok s' => s'
        | .error _ => s
      split <;> rfl

theorem handleWebhook_eq_write (eventId : String) (orderId : OrderId) (paymentId : String)
    (amount : Option ℤ) (currency : Option String) :
    (handleWebhook s eventId (.paymentCaptured (some orderId) paymentId amount currency)).1 =
      match receiveCapture s eventId orderId paymentId amount currency with
      | (s', none) => s'
      | (s', some c) => c.write s' := by
  unfold handleWebhook receiveCapture
  split
  · rfl
  dsimp only [webhookRun]
  unfold capturedRun
  cases hfound : (recordEvent s eventId).payment.filter
      fun payment => payment.matchesCapture orderId paymentId with
  | none => rfl
  | some payment =>
    obtain ⟨hpayment, -⟩ := Option.filter_eq_some_iff.mp hfound
    dsimp only
    split
    · rfl
    split
    · rfl
    split
    · rfl
    simp only [OpenCapture.write, hpayment]
    change ((match captureTransaction (recordEvent s eventId) payment paymentId with
      | .error e => (([], .error e) : WebhookRun)
      | .ok s' => ([s', markProcessed s' eventId], .ok .received)).1.getLastD
        (recordEvent s eventId)) =
      match captureTransaction (recordEvent s eventId) payment paymentId with
      | .ok s' => markProcessed s' eventId
      | .error _ => recordEvent s eventId
    cases captureTransaction (recordEvent s eventId) payment paymentId <;> rfl

/-- The call of `refund` and the close of the intents, at once. -/
def refundAtOnce (refundPaise : ℤ) (answer : GatewayRefundAnswer) (mockId : String) : Checkout :=
  match lookUpRefund s refundPaise, s.payment with
  | .answered reply, _ => closeIntents s reply
  | .sent, some payment =>
    let (s', reply) := sendRefund config s payment refundPaise answer mockId
    closeIntents s' reply
  | _, _ => s

theorem dispatchRefund_eq_refundAtOnce {refundPaise : ℤ} (hpos : 0 < refundPaise)
    (answer : GatewayRefundAnswer) (mockId : String) :
    dispatchRefund config s refundPaise answer mockId =
      refundAtOnce config s refundPaise answer mockId := by
  unfold dispatchRefund refundAtOnce refund lookUpRefund
  cases hpayment : s.payment with
  | none => rfl
  | some payment =>
    dsimp only
    by_cases hpaid : payment.status ≠ .paid
    · rw [if_pos hpaid, if_pos hpaid]
      rfl
    rw [if_neg hpaid, if_neg hpaid, if_neg (not_le.mpr hpos)]
    by_cases hexceeds : payment.amount.paise < refundPaise
    · rw [if_pos hexceeds, if_pos hexceeds]
      rfl
    rw [if_neg hexceeds, if_neg hexceeds]
    rw [Option.getD_none]
    cases findRefund s (defaultRefundKey s payment) with
    | some existing => rfl
    | none =>
      dsimp only [sendRefund]
      cases gatewayRefund config s payment (gatewayRefundPart s payment refundPaise) answer
          mockId with
      | error e => rfl
      | ok sent =>
        obtain ⟨s₁, refundId, status⟩ := sent
        dsimp only
        cases walletRefund config s₁ payment (walletRefundPart s payment refundPaise) <;> rfl

variable {s}

theorem cancelTransaction_rows {refundPaise now : ℤ} {s' : Checkout}
    (h : cancelTransaction s refundPaise now = .ok s') :
    s'.payment = s.payment ∧ s'.booking.status = .cancelled ∧
      s'.refunds = s.refunds ++
        if 0 < refundPaise then [refundIntent (refundIntentKey s now) refundPaise] else [] := by
  unfold cancelTransaction at h
  dsimp only at h
  split at h
  next hnone =>
    cases h
    rw [if_neg (not_lt.mpr hnone), List.append_nil]
    exact ⟨rfl, rfl, rfl⟩
  next hsome =>
    split at h
    · cases h
    split at h
    · cases h
    split at h
    · cases h
    cases h
    rw [if_pos (not_le.mp hsome)]
    exact ⟨rfl, rfl, rfl⟩

variable (s)

theorem executeCancellation_eq_write (request : CancelRequest) (answer : GatewayRefundAnswer)
    (mockId : String) :
    (executeCancellation config terms s request answer mockId).1 =
      match startEnding terms s (.cancel request) with
      | none => s
      | some t =>
        match t.write terms s with
        | none => s
        | some s' =>
          if 0 < t.refundPaise terms then
            refundAtOnce config s' (t.refundPaise terms) answer mockId
          else s' := by
  unfold executeCancellation startEnding
  by_cases hcancelled : s.booking.status = .cancelled
  · rw [if_pos hcancelled, if_pos (.inl hcancelled)]
  rw [if_neg hcancelled]
  by_cases hmatrix : .cancelled ∉ lifecycleMatrix s.booking.status
  · have hskip : s.booking.status = (Ending.cancel request).target ∨
        (Ending.cancel request).target ∉ lifecycleMatrix s.booking.status := .inr hmatrix
    rw [if_pos hskip]
    cases validateAuthorization s.booking terms.vendorUserId request.actorId request.actorRole with
    | error e => rfl
    | ok u =>
      dsimp only
      rw [if_pos hmatrix]
  have hgo : ¬ (s.booking.status = (Ending.cancel request).target ∨
      (Ending.cancel request).target ∉ lifecycleMatrix s.booking.status) :=
    not_or.mpr ⟨hcancelled, hmatrix⟩
  rw [if_neg hgo]
  dsimp only
  cases validateAuthorization s.booking terms.vendorUserId request.actorId request.actorRole with
  | error e => rfl
  | ok u =>
    dsimp only
    rw [if_neg hmatrix, OpenTransition.write, if_neg (not_not.mpr rfl)]
    dsimp only [OpenTransition.refundPaise]
    cases htransaction : cancelTransaction s (cancelRefund s terms request) request.now with
    | error e => rfl
    | ok s' =>
      have hpayment : { s' with payment := s.payment } = s' := by
        rw [← (cancelTransaction_rows htransaction).1]
      dsimp only
      rw [hpayment]
      by_cases hpos : 0 < cancelRefund s terms request
      · rw [if_pos hpos]
        exact (dispatchRefund_eq_refundAtOnce config s' hpos answer mockId).trans
          (if_pos hpos).symm
      · rw [if_neg hpos]
        exact (if_neg hpos).symm

end Uninterrupted

/-! ## The calls under way -/

structure LiveBooking where
  checkout : Checkout
  createdAt : ℤ
  now : ℤ
  /-- The sweeps that have selected the booking and not come to it yet. -/
  sweeps : ℕ
  transitions : List OpenTransition
  refunds : List OpenRefund
  verifications : List OpenVerification
  captures : List OpenCapture
deriving DecidableEq

inductive LiveAction where
  /-- The query of `expireUnconfirmedReservations`. -/
  | selectUnconfirmed (timeoutMinutes : ℕ)
  | expireBooking
  | cancelBooking (customerId : Id) (reason : String)
  | commitTransition (t : OpenTransition)
  | lookUpRefund (r : OpenRefund)
  | sendRefund (r : OpenRefund) (answer : GatewayRefundAnswer) (mockId : String)
  | closeRefund (r : OpenRefund)
  | verifyPayment (customerId : Id) (dto : VerifyPaymentDto) (signatureValid : Bool)
      (fetch : PaymentFetch)
  | commitVerification (v : OpenVerification)
  | receiveCapture (eventId : String) (orderId : OrderId) (paymentId : String) (amount : Option ℤ)
      (currency : Option String)
  | commitCapture (c : OpenCapture)
  | advance (milliseconds : ℕ)

namespace LiveBooking

/-- A booking with nothing under way. -/
def opened (checkout : Checkout) (now : ℤ) : LiveBooking :=
  ⟨checkout, now, now, 0, [], [], [], []⟩

structure Quiescent (live : LiveBooking) : Prop where
  sweeps : live.sweeps = 0
  transitions : live.transitions = []
  refunds : live.refunds = []
  verifications : live.verifications = []
  captures : live.captures = []

def isUnconfirmed (live : LiveBooking) (timeoutMinutes : ℕ) : Bool :=
  live.checkout.booking.status = .pending ∧ live.createdAt < live.now - timeoutMinutes * 60000 ∧
    live.checkout.paymentStatus ≠ some .paid

def start (terms : TripTerms) (live : LiveBooking) (ending : Ending) : LiveBooking :=
  { live with transitions := (startEnding terms live.checkout ending).toList ++ live.transitions }

end LiveBooking

/-- A refund that a transition asks for once it is written. -/
def OpenTransition.asked (terms : TripTerms) (t : OpenTransition) : List OpenRefund :=
  if 0 < t.refundPaise terms then [⟨t.refundPaise terms, .asked⟩] else []

open LiveBooking in
def liveStep (config : PaymentConfig) (terms : TripTerms) (live : LiveBooking) :
    LiveAction → LiveBooking
  | .selectUnconfirmed timeoutMinutes =>
    if live.isUnconfirmed timeoutMinutes then { live with sweeps := live.sweeps + 1 } else live
  | .expireBooking =>
    if live.sweeps = 0 then live
    else start terms { live with sweeps := live.sweeps - 1 } .expire
  | .cancelBooking customerId reason =>
    if textLength (trim reason) = 0 then live
    else live.start terms (.cancel ⟨customerId, .customer, some reason, live.now⟩)
  | .commitTransition t =>
    if t ∈ live.transitions then
      let rest := { live with transitions := live.transitions.erase t }
      match t.write terms live.checkout with
      | none => rest
      | some checkout => { rest with checkout, refunds := t.asked terms ++ live.refunds }
    else live
  | .lookUpRefund r =>
    if r ∈ live.refunds ∧ r.progress = .asked then
      { live with
        refunds := ⟨r.refundPaise, lookUpRefund live.checkout r.refundPaise⟩ ::
          live.refunds.erase r }
    else live
  | .sendRefund r answer mockId =>
    match live.checkout.payment with
    | none => live
    | some payment =>
      if r ∈ live.refunds ∧ r.progress = .sent then
        let (checkout, reply) := sendRefund config live.checkout (payment.asRead .paid)
          r.refundPaise answer mockId
        { live with
          checkout
          refunds := ⟨r.refundPaise, .answered reply⟩ :: live.refunds.erase r }
      else live
  | .closeRefund r =>
    match r.progress with
    | .answered reply =>
      if r ∈ live.refunds then
        { live with
          checkout := closeIntents live.checkout reply
          refunds := live.refunds.erase r }
      else live
    | _ => live
  | .verifyPayment customerId dto signatureValid fetch =>
    { live with
      verifications := (startVerification config live.checkout customerId dto signatureValid
        fetch).toList ++ live.verifications }
  | .commitVerification v =>
    if v ∈ live.verifications then
      { live with
        checkout := v.write config live.checkout
        verifications := live.verifications.erase v }
    else live
  | .receiveCapture eventId orderId paymentId amount currency =>
    let (checkout, found) := receiveCapture live.checkout eventId orderId paymentId amount currency
    { live with checkout, captures := found.toList ++ live.captures }
  | .commitCapture c =>
    if c ∈ live.captures then
      { live with
        checkout := c.write live.checkout
        captures := live.captures.erase c }
    else live
  | .advance milliseconds => { live with now := live.now + milliseconds }

end CarRental
