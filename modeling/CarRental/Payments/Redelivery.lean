import CarRental.Lib.Inbox
import CarRental.Payments.Webhook

/-!
# Redelivered payment events

A delivery of an event that stops after the event's row was written leaves an event
that every redelivery takes for a duplicate.  So the effects of an event take place
exactly when its processing had committed the last of them before it stopped.

`effectiveWrites` counts the writes that have effects: one for a capture, two where an
audit entry follows in a write of its own.
-/

namespace CarRental

/-! ## The inbox of payment events -/

def paymentInbox (eventId : String) (event : WebhookEvent) : Inbox Checkout where
  recorded s := eventRecorded s eventId
  record s := recordEvent s eventId
  writes s := webhookWrites s eventId event

/-- What an event does, apart from its own row. -/
def effects (s : Checkout) : Checkout := { s with webhookEvents := [] }

/-- A delivery whose processing stops after `k` of its writes. -/
def abortedWebhook (s : Checkout) (eventId : String) (event : WebhookEvent) (k : ℕ) : Checkout :=
  (paymentInbox eventId event).abortAfter s k

/-- A redelivery, processed as far as it will be. -/
def redeliver (eventId : String) (event : WebhookEvent) (s : Checkout) : Checkout :=
  (handleWebhook s eventId event).1

/-- The processing throws: the journal of a capture is refused. -/
def webhookThrows (s : Checkout) : WebhookEvent → Bool
  | .paymentCaptured (some orderId) paymentId amount currency =>
    (s.payment.filter fun payment => payment.matchesCapture orderId paymentId).any fun payment =>
      currencyIsInr currency && captureAmountMatches payment amount &&
        payment.status ≠ .paid && !captureJournalAccepted s payment
  | _ => false

/-- The writes of an event that have effects, where its processing does not throw. -/
def effectiveWrites (s : Checkout) : WebhookEvent → ℕ
  | .paymentCaptured (some orderId) paymentId amount currency =>
    match s.payment.filter fun payment => payment.matchesCapture orderId paymentId with
    | none =>
      if s.vendorDeposit.any fun deposit =>
        deposit.matchesCapture orderId paymentId && !deposit.paid then 1 else 0
    | some payment =>
      if currencyIsInr currency && captureAmountMatches payment amount &&
        payment.status ≠ .paid then 1 else 0
  | .paymentFailed orderId _ =>
    if (s.payment.filter fun payment => payment.matchesOrder orderId).any fun payment =>
      payment.status ≠ .paid ∧ payment.status ≠ .refunded then 2 else 0
  | .paymentAuthorized orderId _ =>
    if (s.payment.filter fun payment => payment.matchesOrder orderId).any fun payment =>
      payment.status = .created then 2 else 0
  | .refundProcessed refundId paymentId _ | .refundCreated refundId paymentId _ =>
    if (s.payment.filter fun payment => payment.matchesRefund refundId paymentId).any fun payment =>
      payment.refundStatus ≠ .processed then 2 else 0
  | .refundFailed refundId paymentId =>
    if (s.payment.filter fun payment => payment.matchesRefund refundId paymentId).any fun payment =>
      payment.refundStatus ≠ .failed then 1 else 0
  | _ => 0

section Redelivery

variable {s s' : Checkout} {eventId : String} {event : WebhookEvent}

/-! ## What a processing can do -/

/-- The shapes of a processing: its writes and its reply, the number of effective writes,
and whether it throws. -/
inductive WebhookShape (s : Checkout) (eventId : String) : WebhookRun → ℕ → Bool → Prop where
  | nothing (reply : WebhookReply) : WebhookShape s eventId ([], .ok reply) 0 false
  | thrown (e : HttpError) (count : ℕ) : WebhookShape s eventId ([], .error e) count true
  /-- The row alone is marked. -/
  | mark (reply : WebhookReply) :
      WebhookShape s eventId ([markProcessed s eventId], .ok reply) 0 false
  /-- A capture. -/
  | capture (next : Checkout) (reply : WebhookReply) (visible : effects s ≠ effects next) :
      WebhookShape s eventId ([next, markProcessed next eventId], .ok reply) 1 false
  /-- One write without an audit entry. -/
  | write (next : Checkout) (reply : WebhookReply) (visible : effects s ≠ effects next) :
      WebhookShape s eventId ([next], .ok reply) 1 false
  /-- The same write once more. -/
  | rewrite (reply : WebhookReply) : WebhookShape s eventId ([s], .ok reply) 0 false
  /-- An update of the payment and its audit entry. -/
  | update (payment : Payment) (entry : PaymentAuditEntry) :
      WebhookShape s eventId (updateRun s payment entry) 2 false

theorem effects_ne_of_payment (h : s.payment ≠ s'.payment) : effects s ≠ effects s' := by
  intro heq
  have hpayment : (effects s).payment = (effects s').payment := congrArg Checkout.payment heq
  exact h hpayment

theorem effects_ne_audit (h : s.auditLog = s'.auditLog) (entry : PaymentAuditEntry) :
    effects s ≠ effects (s'.audit entry) := by
  intro heq
  have hlog : (effects s).auditLog = (effects (s'.audit entry)).auditLog :=
    congrArg Checkout.auditLog heq
  have hlength : s.auditLog.length = (s'.auditLog ++ [entry]).length := congrArg List.length hlog
  rw [h, List.length_append, List.length_singleton] at hlength
  omega

theorem vendorDepositRun_shape (s : Checkout) (eventId : String) (orderId : OrderId)
    (paymentId : String) :
    WebhookShape s eventId (vendorDepositRun s orderId paymentId)
      (if s.vendorDeposit.any fun deposit =>
        deposit.matchesCapture orderId paymentId && !deposit.paid then 1 else 0) false := by
  unfold vendorDepositRun
  cases hdeposit : s.vendorDeposit with
  | none => exact .nothing _
  | some deposit =>
    simp only [Option.any_some]
    by_cases hmatch : deposit.matchesCapture orderId paymentId = true
    case neg =>
      simp only [hmatch, Bool.false_eq_true, if_false, Bool.false_and]
      exact .nothing _
    by_cases hpaid : deposit.paid = true
    · simp only [hmatch, hpaid, if_true, Bool.not_true, Bool.and_false, Bool.false_eq_true, if_false]
      exact .nothing _
    · rw [Bool.not_eq_true] at hpaid
      simp only [hmatch, hpaid, if_true, Bool.not_false, Bool.and_true, Bool.false_eq_true, if_false]
      refine .write _ _ fun heq => ?_
      have hvendor : s.vendorDeposit = some _ := congrArg Checkout.vendorDeposit heq
      have hsame := Option.some.inj (hdeposit.symm.trans hvendor)
      have hpaid' := congrArg VendorSecurityDeposit.paid hsame
      exact Bool.false_ne_true (hpaid.symm.trans hpaid')

theorem capturedRun_shape (s : Checkout) (eventId : String) (orderId : OrderId) (paymentId : String)
    (amount : Option ℤ) (currency : Option String) :
    WebhookShape s eventId (capturedRun s eventId orderId paymentId amount currency)
      (effectiveWrites s (.paymentCaptured (some orderId) paymentId amount currency))
      (webhookThrows s (.paymentCaptured (some orderId) paymentId amount currency)) := by
  simp only [capturedRun, effectiveWrites, webhookThrows]
  cases hpayment : s.payment.filter fun payment => payment.matchesCapture orderId paymentId with
  | none => exact vendorDepositRun_shape s eventId orderId paymentId
  | some payment =>
    simp only [Option.any_some]
    cases hinr : currencyIsInr currency with
    | false =>
      simp only [Bool.not_false, if_true, Bool.false_and, Bool.false_eq_true, if_false]
      exact .nothing _
    | true =>
      cases hamount : captureAmountMatches payment amount with
      | false =>
        simp only [Bool.not_true, Bool.not_false, if_true, Bool.true_and, Bool.false_and,
          Bool.false_eq_true, if_false]
        exact .nothing _
      | true =>
        by_cases hpaid : payment.status = .paid
        · simp only [hpaid, Bool.not_true, Bool.false_eq_true, if_false, if_true, ne_eq,
            not_true_eq_false, decide_false, Bool.and_false, Bool.false_and]
          exact .mark _
        · simp only [hpaid, Bool.not_true, Bool.false_eq_true, if_false, if_true, ne_eq,
            not_false_eq_true, decide_true, Bool.and_true, Bool.true_and]
          -- what is left is whether the journal is accepted
          have hok : (captureTransaction s payment paymentId).isOk =
              captureJournalAccepted s payment := captureTransaction_isOk
          rw [← hok]
          cases htransaction : captureTransaction s payment paymentId with
          | error e => exact .thrown e _
          | ok s' =>
            refine .capture s' _ (effects_ne_of_payment fun heq => hpaid ?_)
            obtain ⟨hfound, -⟩ := Option.filter_eq_some_iff.mp hpayment
            obtain ⟨hset, -⟩ := captureTransaction_eq_ok htransaction
            rw [hfound, hset] at heq
            exact congrArg Payment.status (Option.some.inj heq)

theorem WebhookShape.updateUnless {there : Prop} [Decidable there] (reply : WebhookReply)
    (payment : Payment) (entry : PaymentAuditEntry) :
    WebhookShape s eventId (if there then ([], .ok reply) else updateRun s payment entry)
      (if there then 0 else 2) false := by
  by_cases hthere : there
  · rw [if_pos hthere, if_pos hthere]
    exact .nothing reply
  · rw [if_neg hthere, if_neg hthere]
    exact .update payment entry

theorem webhookRun_shape (s : Checkout) (eventId : String) (event : WebhookEvent) :
    WebhookShape s eventId (webhookRun s eventId event) (effectiveWrites s event)
      (webhookThrows s event) := by
  cases event with
  | paymentCaptured orderId paymentId amount currency =>
    cases orderId with
    | none => exact .nothing _
    | some orderId => exact capturedRun_shape s eventId orderId paymentId amount currency
  | paymentFailed orderId paymentId =>
    simp only [webhookRun, failedRun, effectiveWrites, webhookThrows]
    cases s.payment.filter fun payment => payment.matchesOrder orderId with
    | none => exact .nothing _
    | some payment =>
      simp only [Option.any_some, decide_eq_true_eq, ne_eq, ← not_or, ite_not]
      exact .updateUnless _ _ _
  | paymentAuthorized orderId paymentId =>
    simp only [webhookRun, authorizedRun, effectiveWrites, webhookThrows]
    cases s.payment.filter fun payment => payment.matchesOrder orderId with
    | none => exact .nothing _
    | some payment =>
      -- the one event whose guard says when to act
      simp only [Option.any_some, decide_eq_true_eq]
      rw [← ite_not, ← ite_not (payment.status = .created) (0 : ℕ) 2]
      exact .updateUnless _ _ _
  | refundProcessed refundId paymentId amountPaise =>
    simp only [webhookRun, refundProcessedRun, effectiveWrites, webhookThrows]
    cases s.payment.filter fun payment => payment.matchesRefund refundId paymentId with
    | none => exact .nothing _
    | some payment =>
      simp only [Option.any_some, decide_eq_true_eq, ne_eq, ite_not]
      exact .updateUnless _ _ _
  | refundCreated refundId paymentId amountPaise =>
    simp only [webhookRun, refundCreatedRun, effectiveWrites, webhookThrows]
    cases s.payment.filter fun payment => payment.matchesRefund refundId paymentId with
    | none => exact .nothing _
    | some payment =>
      simp only [Option.any_some, decide_eq_true_eq, ne_eq, ite_not]
      exact .updateUnless _ _ _
  | refundFailed refundId paymentId =>
    simp only [webhookRun, refundFailedRun, effectiveWrites, webhookThrows]
    cases hpayment : s.payment.filter fun payment => payment.matchesRefund refundId paymentId with
    | none => exact .nothing _
    | some payment =>
      obtain ⟨hfound, -⟩ := Option.filter_eq_some_iff.mp hpayment
      by_cases hfailed : payment.refundStatus = .failed
      · -- the write is made again, to the same state
        have hsame : s.setPayment { payment with refundStatus := .failed } = s := by
          rw [← hfailed]
          exact congrArg (fun payment => { s with payment }) hfound.symm
        simp only [hfailed, Option.any_some, ne_eq, not_true_eq_false, decide_false,
          Bool.false_eq_true, if_false, hsame]
        exact .rewrite _
      · simp only [hfailed, Option.any_some, ne_eq, not_false_eq_true, decide_true, if_true]
        refine .write _ _ (effects_ne_of_payment fun heq => hfailed ?_)
        rw [hfound] at heq
        exact congrArg Payment.refundStatus (Option.some.inj heq)
  | ignored => exact .nothing _

/-! ## What follows -/

section Shape

variable {run : WebhookRun} {count : ℕ} {throws : Bool}

theorem WebhookShape.isOk_eq (h : WebhookShape s eventId run count throws) :
    run.2.isOk = !throws := by
  cases h <;> rfl

end Shape

theorem paymentInbox_keeps (s : Checkout) (eventId : String) (event : WebhookEvent) :
    (paymentInbox eventId event).Keeps s := by
  intro next hnext
  have hrow : eventRecorded (recordEvent s eventId) eventId = true :=
    eventRecorded_recordEvent_self s eventId
  rcases List.mem_cons.mp hnext with rfl | hwritten
  · exact hrow
  · exact ((webhookRun_frame hwritten).rows eventId).trans hrow

theorem paymentInbox_settles (h : webhookThrows s event = false) :
    (paymentInbox eventId event).Settles effects s (effectiveWrites s event) := by
  have hshape := webhookRun_shape (recordEvent s eventId) eventId event
  have hcount : effectiveWrites (recordEvent s eventId) event = effectiveWrites s event := by
    cases event <;> rfl
  have hthrows : webhookThrows (recordEvent s eventId) event = false := by
    rw [← h]
    cases event <;> rfl
  rw [hcount, hthrows] at hshape
  have hwrites : (paymentInbox eventId event).writes ((paymentInbox eventId event).record s) =
      (webhookRun (recordEvent s eventId) eventId event).1 := rfl
  generalize webhookRun (recordEvent s eventId) eventId event = run at hshape hwrites
  generalize effectiveWrites s event = count at hshape
  cases hshape with
  | nothing reply => exact Inbox.settles_zero_of_nil hwrites
  | mark reply => exact Inbox.settles_zero_of_singleton hwrites rfl
  | capture next reply visible => exact Inbox.settles_one_of_pair hwrites visible rfl
  | write next reply visible => exact Inbox.settles_one_of_singleton hwrites visible
  | rewrite reply => exact Inbox.settles_zero_of_singleton hwrites rfl
  | update payment entry =>
    set updated := (recordEvent s eventId).setPayment payment
    have hentry : ∀ base : Checkout, base.auditLog = updated.auditLog →
        effects base ≠ effects (updated.audit entry) :=
      fun base hlog => effects_ne_audit hlog entry
    exact Inbox.settles_two_of_pair hwrites (hentry _ rfl) (hentry _ rfl)

theorem redeliver_eq : redeliver eventId event = (paymentInbox eventId event).deliver := by
  funext s
  unfold redeliver handleWebhook Inbox.deliver
  split
  next hrecorded => exact (if_pos hrecorded).symm
  next hfresh => exact (if_neg hfresh).symm

/-! ## Redelivery -/

/-- The event can be processed, and a delivery that stops after `k` writes, with the
redeliveries after it, has the effects of one processing. -/
def TakesEffectOnce (s : Checkout) (eventId : String) (event : WebhookEvent) (k n : ℕ) : Prop :=
  (handleWebhook s eventId event).2.isOk = true ∧
    effects ((redeliver eventId event)^[n + 1] (abortedWebhook s eventId event k)) =
      effects (handleWebhook s eventId event).1

theorem takesEffectOnce_iff (hfresh : eventRecorded s eventId = false) (k n : ℕ) :
    TakesEffectOnce s eventId event k n ↔
      webhookThrows s event = false ∧ effectiveWrites s event ≤ k := by
  have hthrows : webhookThrows (recordEvent s eventId) event = webhookThrows s event := by
    cases event <;> rfl
  have hreply : (handleWebhook s eventId event).2.isOk = !webhookThrows s event := by
    rw [← hthrows, ← (webhookRun_shape (recordEvent s eventId) eventId event).isOk_eq, handleWebhook,
      hfresh]
    rfl
  have hprocess : (handleWebhook s eventId event).1 = (paymentInbox eventId event).process s := by
    have hdeliver : (paymentInbox eventId event).deliver s = (paymentInbox eventId event).process s :=
      Inbox.deliver_of_fresh hfresh
    rw [← hdeliver, ← redeliver_eq]
    rfl
  rw [TakesEffectOnce, hreply, hprocess, redeliver_eq, abortedWebhook, Bool.not_eq_true']
  refine and_congr_right fun h => ?_
  exact (paymentInbox_settles h).redeliver_iff (paymentInbox_keeps s eventId event) k (n + 1)

end Redelivery

end CarRental
