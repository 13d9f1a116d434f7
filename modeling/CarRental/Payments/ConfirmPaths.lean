import CarRental.Payments.Reconciliation
import CarRental.Payments.Refund
import CarRental.Payments.Webhook

/-!
# Three paths that confirm a captured payment

A captured payment reaches the booking through `verifyPayment`, through the capture
event, or through the reconciliation.  `confirm` runs one of them on a capture, and
`ConfirmedView` is what the three should agree on.

They never do: an admitted capture makes the payment paid on every path, but only the
reconciliation confirms the booking.  So the paths agree exactly where none of them
admits the capture (`confirm_paths_agree_iff`).

## Strategy

`Admits` says, of the state before, when a path takes the capture.  A path that does
not is a stutter up to the rows of the webhook (`Untouched`), and one that does makes
an unpaid payment paid (`confirm_of_admits`).
-/

namespace CarRental

/-! ## The paths -/

inductive ConfirmPath where
  | verify
  | webhook
  | reconcile
deriving DecidableEq

/-- A payment that the gateway has captured, and the id of the event that tells of it. -/
structure Capture where
  orderId : OrderId
  paymentId : String
  paise : ℤ
  eventId : String
deriving DecidableEq

namespace Capture

def gatewayPayment (capture : Capture) : GatewayPayment :=
  ⟨capture.paymentId, some capture.orderId, some "INR", .captured, capture.paise⟩

def verifyDto (capture : Capture) : VerifyPaymentDto :=
  ⟨capture.orderId, capture.paymentId, "signature"⟩

end Capture

/-- The state after one path has run on the capture, with a valid signature, an order
that is old enough and a free lock. -/
def confirm (config : PaymentConfig) (capture : Capture) (s : Checkout) : ConfirmPath → Checkout
  | .verify =>
    (verifyPayment config s s.booking.customerId capture.verifyDto true
      (.found capture.gatewayPayment)).1
  | .webhook =>
    (handleWebhook s capture.eventId (.paymentCaptured (some capture.orderId) capture.paymentId
      (some capture.paise) (some "INR"))).1
  | .reconcile => (reconcileCandidate config s true true (some [capture.gatewayPayment])).1

/-- What a confirmed payment should look like whichever path confirmed it. -/
structure ConfirmedView where
  paymentStatus : Option PaymentStatus
  bookingStatus : BookingStatus
  depositStatus : Option SecurityDepositStatus
  couponUsages : List CouponUsage
  walletDebit : ℤ
  ledger : Ledger JournalKey
deriving DecidableEq

def confirmedView (s : Checkout) : ConfirmedView where
  paymentStatus := s.paymentStatus
  bookingStatus := s.booking.status
  depositStatus := s.securityDeposit.map SecurityDeposit.status
  couponUsages := s.couponUsages
  walletDebit := totalWalletPaid s
  ledger := s.ledger

/-- The paths lead to one view, and after one of them another changes nothing. -/
def PathsAgree (config : PaymentConfig) (capture : Capture) (s : Checkout) : Prop :=
  (∀ path other, confirmedView (confirm config capture s path) =
      confirmedView (confirm config capture s other)) ∧
    ∀ path other, confirmedView (confirm config capture (confirm config capture s path) other) =
      confirmedView (confirm config capture s path)

/-! ## When a path takes the capture -/

/-- The path finds the unpaid payment of the capture, and its amounts, the ledger, the
wallet and the coupon pass the path's checks. -/
def Admits (config : PaymentConfig) (capture : Capture) (s : Checkout) : ConfirmPath → Prop
  | .verify =>
    ∃ payment ∈ s.payment, payment.razorpayOrderId = some capture.orderId ∧
      payment.status ≠ .paid ∧ ValidTransition (some payment.status) .paid ∧
      ∃ gatewayPaid walletRequired,
        settlement config capture.verifyDto true (.found capture.gatewayPayment)
          s.totalExpected = .settled gatewayPaid walletRequired ∧
        (settleWallet config s walletRequired).isOk = true ∧
        (recordJournal s.ledger (paymentJournal s.booking payment s.depositAmount
          s.totalExpected gatewayPaid walletRequired capture.orderId.isWalletFull)).isOk = true ∧
        (couponAfterRedemption s.booking s.coupon s.couponUsages).isOk = true
  | .webhook =>
    eventRecorded s capture.eventId = false ∧
      ∃ payment ∈ s.payment, payment.matchesCapture capture.orderId capture.paymentId = true ∧
        payment.status ≠ .paid ∧ captureAmountMatches payment (some capture.paise) = true ∧
        captureJournalAccepted s payment = true
  | .reconcile =>
    config.useMock = false ∧ s.booking.status = .pending ∧
      ∃ payment ∈ s.payment, payment.status = .created ∧
        payment.razorpayOrderId = some capture.orderId ∧ capture.paise = s.totalExpected ∧
        (couponAfterReconciliation s.booking s.coupon s.couponUsages).isOk = true ∧
        reconciliationJournalAccepted s payment = true

/-- Only the webhook's event rows, and a vendor's deposit, may differ. -/
def Untouched (s s' : Checkout) : Prop :=
  (∃ webhookEvents vendorDeposit, s' = { s with webhookEvents, vendorDeposit }) ∧
    ∀ eventId, eventRecorded s eventId = true → eventRecorded s' eventId = true

section Paths

variable {config : PaymentConfig} {capture : Capture} {s s' : Checkout}

theorem Untouched.refl (s : Checkout) : Untouched s s :=
  ⟨⟨s.webhookEvents, s.vendorDeposit, rfl⟩, fun _ h => h⟩

theorem Untouched.view (h : Untouched s s') : confirmedView s' = confirmedView s := by
  obtain ⟨⟨webhookEvents, vendorDeposit, rfl⟩, -⟩ := h
  rfl

theorem untouched_recordEvent (s : Checkout) (eventId : String) :
    Untouched s (recordEvent s eventId) :=
  ⟨⟨_, s.vendorDeposit, rfl⟩, fun _ => eventRecorded_recordEvent⟩

theorem vendorDepositRun_untouched (eventId : String) (orderId : OrderId) (paymentId : String) :
    Untouched s
      ((vendorDepositRun (recordEvent s eventId) orderId paymentId).1.getLastD
        (recordEvent s eventId)) := by
  unfold vendorDepositRun
  split
  · exact untouched_recordEvent s eventId
  · split
    · simp only
      split
      · exact untouched_recordEvent s eventId
      · exact ⟨⟨_, _, rfl⟩, fun _ => eventRecorded_recordEvent⟩
    · exact untouched_recordEvent s eventId

theorem fetchedSettlement_captured {payment : GatewayPayment} (orderId : OrderId) (total : ℤ)
    (hcaptured : payment.status = .captured) :
    fetchedSettlement orderId total (.found payment) ≠ .failedAtGateway := by
  simp only [fetchedSettlement, hcaptured]
  split
  · exact Settlement.noConfusion
  split
  · exact Settlement.noConfusion
  split
  · exact Settlement.noConfusion
  · exact Settlement.noConfusion

theorem settlement_captured (total : ℤ) :
    settlement config capture.verifyDto true (.found capture.gatewayPayment) total ≠
      .failedAtGateway := by
  unfold settlement
  split
  · exact Settlement.noConfusion
  split
  · exact Settlement.noConfusion
  split
  · exact fetchedSettlement_captured _ total rfl
  · split
    · exact Settlement.noConfusion
    · exact Settlement.noConfusion

/-! ### Admission is that the path's transaction is reached and commits -/

section Admission

variable {payment : Payment}

theorem admits_verify_iff (hpayment : s.payment = some payment) :
    Admits config capture s .verify ↔
      payment.razorpayOrderId = some capture.orderId ∧ payment.status ≠ .paid ∧
        ValidTransition (some payment.status) .paid ∧
        ∃ gatewayPaid walletRequired,
          settlement config capture.verifyDto true (.found capture.gatewayPayment)
            s.totalExpected = .settled gatewayPaid walletRequired ∧
          (verifyTransaction config s payment capture.verifyDto gatewayPaid
            walletRequired).isOk = true := by
  simp only [Admits, hpayment, Option.mem_def, Option.some.injEq, exists_eq_left',
    verifyTransaction_isOk]
  constructor
  · rintro ⟨horder, hunpaid, hvalid, gatewayPaid, walletRequired, hsettled, hrest⟩
    exact ⟨horder, hunpaid, hvalid, gatewayPaid, walletRequired, hsettled, hrest.1, hvalid, hrest.2⟩
  · rintro ⟨horder, hunpaid, hvalid, gatewayPaid, walletRequired, hsettled, hwallet, -, hrest⟩
    exact ⟨horder, hunpaid, hvalid, gatewayPaid, walletRequired, hsettled, hwallet, hrest⟩

theorem admits_webhook_iff (hpayment : s.payment = some payment)
    (hfresh : eventRecorded s capture.eventId = false)
    (hmatch : payment.matchesCapture capture.orderId capture.paymentId = true) :
    Admits config capture s .webhook ↔ payment.status ≠ .paid ∧
      captureAmountMatches payment (some capture.paise) = true ∧
      (captureTransaction (recordEvent s capture.eventId) payment
        capture.paymentId).isOk = true := by
  rw [captureTransaction_isOk]
  simp only [Admits, hfresh, hpayment, Option.mem_def, Option.some.injEq, exists_eq_left', hmatch,
    true_and]
  rfl

theorem admits_reconcile_iff (hpayment : s.payment = some payment) :
    Admits config capture s .reconcile ↔ config.useMock = false ∧
      s.booking.status = .pending ∧ payment.status = .created ∧
      payment.razorpayOrderId = some capture.orderId ∧ capture.paise = s.totalExpected ∧
      (reconcileTransaction s payment capture.gatewayPayment).isOk = true := by
  rw [reconcileTransaction_isOk, reconcileCoupon_isOk, Bool.and_eq_true]
  simp only [Admits, hpayment, Option.mem_def, Option.some.injEq, exists_eq_left']

end Admission

/-! ### Each path commits its transaction or stutters -/

theorem confirm_verify (config : PaymentConfig) (capture : Capture) (s : Checkout) :
    (Admits config capture s .verify ∧
        (confirm config capture s .verify).paymentStatus = some .paid ∧
        (confirm config capture s .verify).booking = s.booking) ∨
      (¬ Admits config capture s .verify ∧ confirm config capture s .verify = s) := by
  cases hpayment : s.payment with
  | none =>
    refine .inr ⟨?_, ?_⟩
    · rintro ⟨payment, hmem, -⟩
      rw [hpayment] at hmem
      cases hmem
    · simp [confirm, verifyPayment, hpayment]
  | some payment =>
    have hconfirm : confirm config capture s .verify = (verifyPayment config s
        s.booking.customerId capture.verifyDto true (.found capture.gatewayPayment)).1 := rfl
    rw [admits_verify_iff hpayment, hconfirm]
    -- the checks of `verifyPayment` in their order; each refusal denies one part of admission
    unfold verifyPayment
    simp only [ne_eq, not_true_eq_false, if_false, hpayment]
    split
    next horder => exact .inr ⟨fun h => horder h.1, rfl⟩
    next horder =>
      split
      next hpaid =>
        refine .inr ⟨fun h => h.2.1 hpaid, ?_⟩
        split <;> rfl
      next hunpaid =>
        split
        next hrefunded =>
          refine .inr ⟨fun h => ?_, rfl⟩
          rw [hrefunded] at h
          exact absurd h.2.2.1 (by decide)
        next hnotRefunded =>
          split
          next e hsettlement =>
            refine .inr ⟨?_, rfl⟩
            rintro ⟨-, -, -, gatewayPaid, walletRequired, hsettled, -⟩
            rw [hsettlement] at hsettled
            cases hsettled
          next hsettlement => exact absurd hsettlement (settlement_captured _)
          next gatewayPaid walletRequired hsettlement =>
            cases htx : verifyTransaction config s payment capture.verifyDto gatewayPaid
                walletRequired with
            | error e =>
              refine .inr ⟨?_, rfl⟩
              rintro ⟨-, -, -, gatewayPaid', walletRequired', hsettled, hok⟩
              rw [hsettlement] at hsettled
              cases hsettled
              rw [htx] at hok
              cases hok
            | ok s' =>
              obtain ⟨hvalid, hpaid, hbooking⟩ := verifyTransaction_eq_ok htx
              refine .inl ⟨⟨not_not.mp horder, hunpaid, hvalid, gatewayPaid, walletRequired,
                hsettlement, ?_⟩, hpaid, hbooking⟩
              rw [htx]
              rfl

theorem confirm_webhook (config : PaymentConfig) (capture : Capture) (s : Checkout) :
    (Admits config capture s .webhook ∧
        (confirm config capture s .webhook).paymentStatus = some .paid ∧
        (confirm config capture s .webhook).booking = s.booking) ∨
      (¬ Admits config capture s .webhook ∧
        Untouched s (confirm config capture s .webhook)) := by
  simp only [confirm, handleWebhook]
  cases hrecorded : eventRecorded s capture.eventId with
  | true =>
    refine .inr ⟨?_, Untouched.refl s⟩
    rintro ⟨hfresh, -⟩
    rw [hrecorded] at hfresh
    cases hfresh
  | false =>
    rw [if_neg Bool.false_ne_true]
    simp only [webhookRun, capturedRun]
    have hrow : (recordEvent s capture.eventId).payment = s.payment := rfl
    rw [hrow]
    cases hfound : s.payment.filter fun payment =>
        payment.matchesCapture capture.orderId capture.paymentId with
    | none =>
      refine .inr ⟨?_, vendorDepositRun_untouched _ _ _⟩
      rintro ⟨-, payment, hmem, hmatch, -⟩
      rw [hmem, Option.filter_some, hmatch] at hfound
      cases hfound
    | some payment =>
      obtain ⟨hpayment, hmatch⟩ := Option.filter_eq_some_iff.mp hfound
      have hinr : currencyIsInr (some "INR") = true := by decide +kernel
      rw [admits_webhook_iff hpayment hrecorded hmatch]
      simp only [hinr, Bool.not_true, Bool.false_eq_true, if_false]
      cases hamount : captureAmountMatches payment (some capture.paise) with
      | false =>
        refine .inr ⟨fun h => Bool.false_ne_true h.2.1, untouched_recordEvent s _⟩
      | true =>
        simp only [Bool.not_true, Bool.false_eq_true, if_false]
        by_cases hpaid : payment.status = .paid
        · -- a second capture of a paid payment only marks the event's row
          rw [if_pos hpaid]
          refine .inr ⟨fun h => h.1 hpaid, ⟨_, s.vendorDeposit, rfl⟩, ?_⟩
          intro eventId h
          exact (eventRecorded_markProcessed _ _).trans (eventRecorded_recordEvent h)
        rw [if_neg hpaid]
        cases htx : captureTransaction (recordEvent s capture.eventId) payment
            capture.paymentId with
        | error e =>
          refine .inr ⟨fun h => ?_, untouched_recordEvent s _⟩
          cases h.2.2
        | ok s' =>
          obtain ⟨hstatus, hbooking, -⟩ := captureTransaction_eq_ok htx
          exact .inl ⟨⟨hpaid, trivial, rfl⟩, Checkout.paymentStatus_eq hstatus, hbooking⟩

theorem confirm_reconcile :
    (Admits config capture s .reconcile ∧
        (confirm config capture s .reconcile).paymentStatus = some .paid ∧
        (confirm config capture s .reconcile).booking.status = .confirmed) ∨
      (¬ Admits config capture s .reconcile ∧ confirm config capture s .reconcile = s) := by
  have hconfirm : confirm config capture s .reconcile =
      (reconcileCandidate config s true true (some [capture.gatewayPayment])).1 := rfl
  rw [hconfirm]
  cases hpayment : s.payment with
  | none =>
    refine .inr ⟨?_, ?_⟩
    · rintro ⟨-, -, payment, hmem, -⟩
      rw [hpayment] at hmem
      cases hmem
    · simp [reconcileCandidate, hpayment]
  | some payment =>
    rw [admits_reconcile_iff hpayment]
    by_cases hcandidate : config.useMock = false ∧ s.booking.status = .pending ∧
        payment.status = .created ∧ payment.razorpayOrderId = some capture.orderId
    case neg =>
      refine .inr ⟨fun h => hcandidate ⟨h.1, h.2.1, h.2.2.1, h.2.2.2.1⟩, ?_⟩
      exact reconcileCandidate_refused hpayment rfl hcandidate
    obtain ⟨hmock, hpending, hcreated, horder⟩ := hcandidate
    rw [reconcileCandidate_captured hmock hpayment hcreated horder hpending rfl rfl
      (by decide +kernel : currencyIsInr (some "INR") = true)]
    by_cases hamount : capture.paise = s.totalExpected
    case neg =>
      refine .inr ⟨fun h => hamount h.2.2.2.2.1, ?_⟩
      rw [if_neg (show ¬ capture.gatewayPayment.amount = s.totalExpected from hamount)]
    rw [if_pos (show capture.gatewayPayment.amount = s.totalExpected from hamount)]
    cases htx : reconcileTransaction s payment capture.gatewayPayment with
    | error e =>
      refine .inr ⟨fun h => ?_, rfl⟩
      cases h.2.2.2.2.2
    | ok s' =>
      obtain ⟨hpaid, hbooking, -⟩ := reconcileTransaction_eq_ok htx
      refine .inl ⟨⟨hmock, hpending, hcreated, horder, hamount, rfl⟩,
        Checkout.paymentStatus_eq hpaid, ?_⟩
      show s'.booking.status = .confirmed
      rw [hbooking]

theorem confirm_of_not_admits {path : ConfirmPath} (h : ¬ Admits config capture s path) :
    Untouched s (confirm config capture s path) := by
  cases path with
  | verify =>
    rcases confirm_verify config capture s with
      ⟨hadmits, -⟩ | ⟨-, hsame⟩
    · exact absurd hadmits h
    · rw [hsame]
      exact Untouched.refl s
  | webhook => exact ((confirm_webhook config capture s).resolve_left fun hadmits => h hadmits.1).2
  | reconcile =>
    have hsame := (confirm_reconcile.resolve_left fun hadmits => h hadmits.1).2
    rw [hsame]
    exact Untouched.refl s

theorem confirm_of_admits {path : ConfirmPath} (h : Admits config capture s path) :
    s.paymentStatus ≠ some .paid ∧
      (confirm config capture s path).paymentStatus = some .paid ∧
      (confirm config capture s path).booking.status =
        if path = .reconcile then .confirmed else s.booking.status := by
  cases path with
  | verify =>
    obtain ⟨-, hpaid, hbooking⟩ :=
      (confirm_verify config capture s).resolve_right fun hnot => hnot.1 h
    obtain ⟨payment, hpayment, -, hunpaid, -⟩ := h
    refine ⟨?_, hpaid, by rw [hbooking]; rfl⟩
    rw [Checkout.paymentStatus_eq hpayment]
    exact (Option.some_injective _).ne hunpaid
  | webhook =>
    obtain ⟨-, hpaid, hbooking⟩ :=
      (confirm_webhook config capture s).resolve_right fun hnot => hnot.1 h
    obtain ⟨-, payment, hpayment, -, hunpaid, -⟩ := h
    refine ⟨?_, hpaid, by rw [hbooking]; rfl⟩
    rw [Checkout.paymentStatus_eq hpayment]
    exact (Option.some_injective _).ne hunpaid
  | reconcile =>
    obtain ⟨-, hpaid, hconfirmed⟩ := confirm_reconcile.resolve_right fun hnot => hnot.1 h
    obtain ⟨-, -, payment, hpayment, hcreated, -⟩ := h
    refine ⟨?_, hpaid, hconfirmed⟩
    rw [Checkout.paymentStatus_eq hpayment, hcreated]
    decide

theorem Untouched.admits (h : Untouched s s') {path : ConfirmPath}
    (hadmits : Admits config capture s' path) : Admits config capture s path := by
  obtain ⟨⟨webhookEvents, vendorDeposit, rfl⟩, hrecorded⟩ := h
  cases path with
  | verify =>
    obtain ⟨payment, hpayment, horder, hunpaid, hvalid, gatewayPaid, walletRequired, hsettled,
      hwallet, hrest⟩ := hadmits
    refine ⟨payment, hpayment, horder, hunpaid, hvalid, gatewayPaid, walletRequired, hsettled,
      ?_, hrest⟩
    have hsame : (settleWallet config s walletRequired).isOk =
        (settleWallet config { s with webhookEvents, vendorDeposit } walletRequired).isOk :=
      settleWallet_isOk_congr rfl rfl
    rw [hsame]
    exact hwallet
  | webhook =>
    obtain ⟨hfresh, hrest⟩ := hadmits
    refine ⟨?_, hrest⟩
    cases hs : eventRecorded s capture.eventId with
    | false => rfl
    | true => rw [← hfresh, hrecorded _ hs]
  | reconcile => exact hadmits

/-- **When the three paths agree.**  They lead to one view, and a second path changes
nothing after a first, exactly when none of them admits the capture. -/
theorem confirm_paths_agree_iff :
    PathsAgree config capture s ↔ ∀ path, ¬ Admits config capture s path := by
  constructor
  · rintro ⟨hagree, -⟩ path hadmits
    obtain ⟨hunpaid, hpaid, hstatus⟩ := confirm_of_admits hadmits
    -- a path that stutters leaves the payment unpaid, so no path stutters
    have hall : ∀ other, Admits config capture s other := by
      intro other
      by_contra hnot
      have hview := hagree path other
      rw [(confirm_of_not_admits hnot).view] at hview
      have hpaymentStatus := congrArg ConfirmedView.paymentStatus hview
      exact hunpaid (hpaymentStatus.symm.trans hpaid)
    -- and the reconciliation alone confirms the booking
    obtain ⟨-, hpending, -⟩ := hall .reconcile
    have hbooking := congrArg ConfirmedView.bookingStatus (hagree .reconcile .verify)
    have hreconciled := (confirm_of_admits (hall .reconcile)).2.2
    have hverified := (confirm_of_admits (hall .verify)).2.2
    rw [if_pos rfl] at hreconciled
    rw [if_neg (by decide), hpending] at hverified
    have hclash : BookingStatus.confirmed = .pending :=
      hreconciled.symm.trans (hbooking.trans hverified)
    cases hclash
  · intro hnone
    refine ⟨fun path other => ?_, fun path other => ?_⟩
    · rw [(confirm_of_not_admits (hnone path)).view, (confirm_of_not_admits (hnone other)).view]
    · have hfirst := confirm_of_not_admits (hnone path)
      exact (confirm_of_not_admits fun h => hnone other (hfirst.admits h)).view

end Paths

/-- A booking of 1118.00 with a deposit of 50.00 and a coupon, ordered for the whole total. -/
def couponCheckout : Checkout :=
  { sampleCheckout with
    booking := { sampleBooking with couponId := some "coupon", discountAmount := some sampleDeposit }
    securityDeposit := some ⟨"deposit", sampleDeposit, 0, 0, .required, none, none⟩
    payment := some { samplePayment with amount := sampleTotal }
    coupon := some ⟨"coupon", true, none, none, 0⟩ }

/-- One captured payment, three outcomes: verified, it redeems the coupon and holds the
deposit; from the event, it does neither; reconciled, it confirms the booking and
leaves the deposit. -/
theorem capture_confirmed_three_ways :
    let capture : Capture := ⟨.gateway "order", "pay", 116800, "event"⟩
    let outcome := fun path =>
      let view := confirmedView (confirm liveConfig capture couponCheckout path)
      (view.paymentStatus, view.bookingStatus, view.depositStatus, view.couponUsages.length)
    outcome .verify = (some .paid, .pending, some .held, 1) ∧
      outcome .webhook = (some .paid, .pending, some .required, 0) ∧
      outcome .reconcile = (some .paid, .confirmed, some .required, 1) ∧
      ¬ PathsAgree liveConfig capture couponCheckout := by
  refine ⟨by decide +kernel, by decide +kernel, by decide +kernel, ?_⟩
  intro hagree
  have hview := congrArg ConfirmedView.bookingStatus (hagree.1 .webhook .reconcile)
  revert hview
  decide +kernel

end CarRental
