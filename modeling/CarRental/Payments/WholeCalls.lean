import CarRental.Lib.Runs
import CarRental.Payments.PaymentCalls

/-!
# Whole calls are runs of the desk

`callStep` cuts the payment calls where they wait.  A call that runs from its start to its end, as
`createOrder`, `verifyPayment`, `handleWebhook` and `reconcileCandidate` have it, is its steps one
after the other (`whole_calls_simulated`).  So the runs of the desk are at least those of the whole
calls, and what holds of all of them holds of these.
-/

namespace CarRental

open Runs

/-- A call that nothing comes between, or news of the gateway. -/
inductive WholeCall where
  | createOrder (customerId : Id) (useWallet : Bool) (newPaymentId : Id)
      (gatewayOrder : Option String) (nonce : String)
  | verifyPayment (customerId : Id) (dto : VerifyPaymentDto) (signatureValid reachable : Bool)
  | webhook (eventId : String) (event : WebhookEvent)
  | reconcileUnconfirmed (oldEnough lockAcquired reachable : Bool)
  | gatewayPays (payment : GatewayPayment)

/-- The whole functions, with what the gateway holds for their answers. -/
def wholeStep (config : PaymentConfig) (d : PaymentDesk) : WholeCall → PaymentDesk
  | .createOrder customerId useWallet newPaymentId gatewayOrder nonce =>
    { d with checkout :=
        (createOrder config d.checkout customerId useWallet newPaymentId gatewayOrder nonce).1 }
  | .verifyPayment customerId dto signatureValid reachable =>
    { d with checkout := (verifyPayment config d.checkout customerId dto signatureValid
        (d.fetch dto.razorpayPaymentId reachable)).1 }
  | .webhook eventId event => { d with checkout := (handleWebhook d.checkout eventId event).1 }
  | .reconcileUnconfirmed oldEnough lockAcquired reachable =>
    { d with checkout := (reconcileCandidate config d.checkout oldEnough lockAcquired
        (if reachable then some d.gateway else none)).1 }
  | .gatewayPays payment => d.pay payment

/-- The event is of those that the desk takes: it is about no refund, and a capture is one of the
booking's payment. -/
def OfPayment (d : PaymentDesk) : WholeCall → Prop
  | .webhook _ (.paymentCaptured (some orderId) paymentId _ _) =>
    (d.checkout.payment.any fun payment => payment.matchesCapture orderId paymentId) = true
  | .webhook _ (.refundProcessed _ _ _) | .webhook _ (.refundCreated _ _ _)
  | .webhook _ (.refundFailed _ _) => False
  | _ => True

section Steps

variable {config : PaymentConfig} {d : PaymentDesk}

theorem write_zero_of_quiet (hquiet : d.calls = []) : d.write config 0 = d := by
  simp [PaymentDesk.write, hquiet]

theorem write_addCall (hquiet : d.calls = []) (call : Option PaymentCall)
    (hlast : ∀ c ∈ call, c.next config d.checkout = none) :
    (d.addCall call).write config 0 =
      { d with checkout := afterCall config d.checkout call } := by
  cases call with
  | none => simp [PaymentDesk.addCall, PaymentDesk.write, afterCall, hquiet]
  | some c =>
    simp [PaymentDesk.addCall, PaymentDesk.write, PaymentDesk.replaceCall, afterCall, hquiet,
      hlast c rfl]

theorem createOrder_simulated (hquiet : d.calls = []) (customerId : Id) (useWallet : Bool)
    (newPaymentId : Id) (gatewayOrder : Option String) (nonce : String) :
    run (callStep config) d
        [.createOrder customerId useWallet newPaymentId gatewayOrder nonce, .write 0] =
      wholeStep config d (.createOrder customerId useWallet newPaymentId gatewayOrder nonce) := by
  have hlast : ∀ c ∈ readOrder config d.checkout customerId useWallet newPaymentId gatewayOrder
      nonce, c.next config d.checkout = none := by
    intro c hc
    unfold readOrder at hc
    repeat' split at hc
    all_goals cases hc
    rfl
  rw [wholeStep, createOrder_split]
  exact write_addCall hquiet _ hlast

theorem settleCall_next {fromStatus : PaymentStatus} {dto : VerifyPaymentDto}
    {signatureValid : Bool} {fetch : PaymentFetch} {s : Checkout} :
    ∀ c ∈ settleCall config s fromStatus dto signatureValid fetch, c.next config s = none := by
  intro c hc
  unfold settleCall at hc
  split at hc <;> cases hc <;> rfl

theorem reconcileCall_next {s : Checkout} {orderId : OrderId} {items : List GatewayPayment} :
    ∀ c ∈ reconcileCall s orderId items, c.next config s = none := by
  intro c hc
  unfold reconcileCall at hc
  repeat' split at hc
  all_goals cases hc
  rfl

theorem answer_addCall (hquiet : d.calls = []) (call : PaymentCall) (reachable : Bool) :
    (d.addCall (some call)).answer config 0 reachable =
      match call with
      | .verifying fromStatus dto signatureValid =>
        d.addCall (settleCall config d.checkout fromStatus dto signatureValid
          (d.fetch dto.razorpayPaymentId reachable))
      | .listing orderId =>
        d.addCall (if reachable then reconcileCall d.checkout orderId d.gateway else none)
      | call => d.addCall (some call) := by
  cases call <;>
    simp [PaymentDesk.addCall, PaymentDesk.answer, PaymentDesk.replaceCall, PaymentDesk.fetch,
      hquiet]

theorem readVerify_eq_some {s : Checkout} {customerId : Id} {dto : VerifyPaymentDto}
    {signatureValid : Bool} {call : PaymentCall}
    (h : readVerify s customerId dto signatureValid = some call) :
    ∃ fromStatus, call = .verifying fromStatus dto signatureValid := by
  unfold readVerify at h
  repeat' split at h
  all_goals cases h
  exact ⟨_, rfl⟩

theorem readCandidate_eq_some {s : Checkout} {oldEnough lockAcquired : Bool} {call : PaymentCall}
    (h : readCandidate config s oldEnough lockAcquired = some call) :
    ∃ orderId, call = .listing orderId := by
  unfold readCandidate at h
  repeat' split at h
  all_goals try cases h
  obtain ⟨orderId, -, rfl⟩ := Option.map_eq_some_iff.mp h
  exact ⟨orderId, rfl⟩

theorem verifyPayment_simulated (hquiet : d.calls = []) (customerId : Id) (dto : VerifyPaymentDto)
    (signatureValid reachable : Bool) :
    run (callStep config) d
        [.verifyPayment customerId dto signatureValid, .gatewayAnswers 0 reachable, .write 0] =
      wholeStep config d (.verifyPayment customerId dto signatureValid reachable) := by
  rw [wholeStep, verifyPayment_split]
  change PaymentDesk.write config (PaymentDesk.answer config (d.addCall (readVerify d.checkout
    customerId dto signatureValid)) 0 reachable) 0 = _
  cases hread : readVerify d.checkout customerId dto signatureValid with
  | none => simp [PaymentDesk.addCall, PaymentDesk.answer, PaymentDesk.write, hquiet]
  | some call =>
    obtain ⟨fromStatus, rfl⟩ := readVerify_eq_some hread
    rw [answer_addCall hquiet]
    exact write_addCall hquiet _ settleCall_next

theorem reconcileUnconfirmed_simulated (hquiet : d.calls = [])
    (oldEnough lockAcquired reachable : Bool) :
    run (callStep config) d
        [.reconcileUnconfirmed oldEnough lockAcquired, .gatewayAnswers 0 reachable, .write 0] =
      wholeStep config d (.reconcileUnconfirmed oldEnough lockAcquired reachable) := by
  rw [wholeStep, reconcileCandidate_split]
  change PaymentDesk.write config (PaymentDesk.answer config (d.addCall (readCandidate config
    d.checkout oldEnough lockAcquired)) 0 reachable) 0 = _
  cases hread : readCandidate config d.checkout oldEnough lockAcquired with
  | none => simp [PaymentDesk.addCall, PaymentDesk.answer, PaymentDesk.write, hquiet]
  | some call =>
    obtain ⟨orderId, rfl⟩ := readCandidate_eq_some hread
    rw [answer_addCall hquiet]
    cases reachable with
    | false => exact write_addCall hquiet none fun c hc => by cases hc
    | true => exact write_addCall hquiet _ reconcileCall_next

theorem write_write_addCall (hquiet : d.calls = []) (call : PaymentCall) :
    ((d.addCall (some call)).write config 0).write config 0 =
      match call.next config d.checkout with
      | none => { d with checkout := call.write config d.checkout }
      | some later =>
        { d with
          checkout := later.write config (call.write config d.checkout)
          calls := (later.next config (call.write config d.checkout)).toList } := by
  cases hnext : call.next config d.checkout <;>
    simp [PaymentDesk.addCall, PaymentDesk.write, PaymentDesk.replaceCall, hquiet, hnext]

theorem writes_readEvent (hquiet : d.calls = []) {eventId : String} {event : WebhookEvent}
    (hevent : OfPayment d (.webhook eventId event)) :
    ((d.addCall (readEvent d.checkout eventId event)).write config 0).write config 0 =
      { d with checkout := (webhookRun d.checkout eventId event).1.getLastD d.checkout } := by
  have hnone : ((d.addCall none).write config 0).write config 0 = d := by
    rw [show d.addCall none = d by simp [PaymentDesk.addCall], write_zero_of_quiet hquiet,
      write_zero_of_quiet hquiet]
  cases event with
  | ignored => exact hnone
  | refundProcessed | refundCreated | refundFailed => exact hevent.elim
  | paymentCaptured orderId paymentId amount currency =>
    cases orderId with
    | none => exact hnone
    | some orderId =>
      obtain ⟨payment, hpayment, hmatch⟩ := Option.any_eq_true _ _ |>.mp hevent
      have hfound : d.checkout.payment.filter (fun payment =>
          payment.matchesCapture orderId paymentId) = some payment := by
        rw [hpayment, Option.filter_some, if_pos hmatch]
      simp only [readEvent, webhookRun, capturedRun, hfound]
      split
      · exact hnone
      split
      · exact hnone
      split
      · rw [write_write_addCall hquiet]
        rfl
      rw [write_write_addCall hquiet]
      simp only [PaymentCall.next, PaymentCall.committed, PaymentCall.write,
        commit_of_current hpayment]
      cases captureTransaction d.checkout payment paymentId with
      | error e => rfl
      | ok s' => simp [Except.toOption, hquiet]
  | paymentFailed orderId paymentId | paymentAuthorized orderId paymentId =>
    simp only [readEvent, webhookRun, failedRun, authorizedRun]
    cases hfound : d.checkout.payment.filter fun payment => payment.matchesOrder orderId with
    | none => exact hnone
    | some payment =>
      obtain ⟨hpayment, -⟩ := Option.filter_eq_some_iff.mp hfound
      dsimp only
      split
      all_goals try exact hnone
      all_goals
        rw [write_write_addCall hquiet]
        simp [PaymentCall.next, PaymentCall.write, hpayment, markPayment, markEntry, updateRun,
          hquiet]

theorem webhook_simulated (hquiet : d.calls = []) {eventId : String} {event : WebhookEvent}
    (hevent : OfPayment d (.webhook eventId event)) :
    run (callStep config) d [.webhook eventId event true, .write 0, .write 0] =
      wholeStep config d (.webhook eventId event) := by
  change ((d.receive eventId event true).write config 0).write config 0 = _
  unfold PaymentDesk.receive wholeStep handleWebhook
  simp only [Bool.not_true, Bool.false_eq_true, if_false]
  split
  · rw [write_zero_of_quiet hquiet, write_zero_of_quiet hquiet]
  · exact writes_readEvent (d := { d with checkout := recordEvent d.checkout eventId }) hquiet hevent

end Steps

/-- Whole calls, one after the other on a desk with nothing under way, leave what a run of the desk
leaves: every run of theirs is one of the desk. -/
theorem whole_calls_simulated (config : PaymentConfig) {d : PaymentDesk} (hquiet : d.calls = [])
    {calls : List WholeCall} (hcalls : Along (wholeStep config) OfPayment d calls) :
    ∃ actions, run (callStep config) d actions = run (wholeStep config) d calls ∧
      (run (wholeStep config) d calls).calls = [] := by
  refine hcalls.simulated (R := fun whole cut => cut = whole ∧ whole.calls = []) ?_ ⟨rfl, hquiet⟩
  rintro s _ call ⟨rfl, hs⟩ hcall
  cases call with
  | createOrder customerId useWallet newPaymentId gatewayOrder nonce =>
    exact ⟨_, createOrder_simulated hs .., hs⟩
  | verifyPayment customerId dto signatureValid reachable =>
    exact ⟨_, verifyPayment_simulated hs .., hs⟩
  | webhook eventId event => exact ⟨_, webhook_simulated hs hcall, hs⟩
  | reconcileUnconfirmed oldEnough lockAcquired reachable =>
    exact ⟨_, reconcileUnconfirmed_simulated hs .., hs⟩
  | gatewayPays payment =>
    refine ⟨[.gatewayPays payment], rfl, ?_⟩
    rw [wholeStep, PaymentDesk.pay]
    split
    · exact hs
    · exact hs

/-- A capture that a webhook tells of before the customer's verification comes. -/
theorem captured_then_verified_simulated :
    let calls : List WholeCall :=
      [.gatewayPays ⟨"pay", some (.gateway "order"), some "INR", .captured, 116800⟩,
        .webhook "event" (.paymentCaptured (some (.gateway "order")) "pay" (some 116800)
          (some "INR")),
        .verifyPayment "customer" ⟨.gateway "order", "pay", "signature"⟩ true true]
    ∃ actions, run (callStep liveConfig) ⟨sampleCheckout, [], []⟩ actions =
        run (wholeStep liveConfig) ⟨sampleCheckout, [], []⟩ calls ∧
      (run (wholeStep liveConfig) ⟨sampleCheckout, [], []⟩ calls).calls = [] :=
  whole_calls_simulated liveConfig rfl ⟨trivial, rfl, trivial, trivial⟩

end CarRental
