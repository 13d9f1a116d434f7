import CarRental.Bookings.LateCaptures
import CarRental.Bookings.RefundRecords

/-!
# The calls on a booking are runs of its desk

`LiveBooking` cuts a verification, a capture and a cancellation where they wait.  Calls that come one
after the other, each up to its answer, are among its runs (`booking_calls_simulated`): what is shown
of every interleaving holds of them.
-/

namespace CarRental

open Runs

inductive BookingCallAction where
  | verifyPayment (customerId : Id) (dto : VerifyPaymentDto) (signatureValid : Bool)
      (fetch : PaymentFetch)
  | paymentCaptured (eventId : String) (orderId : OrderId) (paymentId : String) (amount : Option ℤ)
      (currency : Option String)
  | cancelBooking (customerId : Id) (reason : String) (answer : GatewayRefundAnswer)
      (mockId : String)
  | advance (milliseconds : ℕ)

/-- The functions themselves; a cancellation without a reason is refused before any of them. -/
def bookingCallStep (config : PaymentConfig) (terms : TripTerms) (live : LiveBooking) :
    BookingCallAction → LiveBooking
  | .verifyPayment customerId dto signatureValid fetch =>
    { live with
      checkout := (verifyPayment config live.checkout customerId dto signatureValid fetch).1 }
  | .paymentCaptured eventId orderId paymentId amount currency =>
    { live with
      checkout := (handleWebhook live.checkout eventId
        (.paymentCaptured (some orderId) paymentId amount currency)).1 }
  | .cancelBooking customerId reason answer mockId =>
    if textLength (trim reason) = 0 then live
    else
      { live with
        checkout := (executeCancellation config terms live.checkout
          ⟨customerId, .customer, some reason, live.now⟩ answer mockId).1 }
  | .advance milliseconds => { live with now := live.now + milliseconds }

section Steps

variable {config : PaymentConfig} {terms : TripTerms} {live : LiveBooking}

theorem verification_simulated (hquiet : live.Quiescent) (customerId : Id) (dto : VerifyPaymentDto)
    (signatureValid : Bool) (fetch : PaymentFetch) :
    ∃ actions, run (liveStep config terms) live actions =
      bookingCallStep config terms live (.verifyPayment customerId dto signatureValid fetch) := by
  obtain ⟨checkout, createdAt, now, sweeps, transitions, refunds, verifications, captures⟩ := live
  obtain ⟨rfl, rfl, rfl, rfl, rfl⟩ := hquiet
  rw [bookingCallStep, verifyPayment_eq_write]
  cases hstart : startVerification config checkout customerId dto signatureValid fetch with
  | none => exact ⟨[], rfl⟩
  | some v =>
    refine ⟨[.verifyPayment customerId dto signatureValid fetch, .commitVerification v], ?_⟩
    simp [liveStep, hstart]

theorem capture_simulated (hquiet : live.Quiescent) (eventId : String) (orderId : OrderId)
    (paymentId : String) (amount : Option ℤ) (currency : Option String) :
    ∃ actions, run (liveStep config terms) live actions =
      bookingCallStep config terms live
        (.paymentCaptured eventId orderId paymentId amount currency) := by
  obtain ⟨checkout, createdAt, now, sweeps, transitions, refunds, verifications, captures⟩ := live
  obtain ⟨rfl, rfl, rfl, rfl, rfl⟩ := hquiet
  rw [bookingCallStep, handleWebhook_eq_write]
  obtain ⟨received, found, hreceive⟩ :
      ∃ received found, receiveCapture checkout eventId orderId paymentId amount currency =
        (received, found) := ⟨_, _, rfl⟩
  rw [hreceive]
  cases found with
  | none =>
    refine ⟨[.receiveCapture eventId orderId paymentId amount currency], ?_⟩
    simp [liveStep, hreceive]
  | some c =>
    refine ⟨[.receiveCapture eventId orderId paymentId amount currency, .commitCapture c], ?_⟩
    simp [liveStep, hreceive]

theorem refund_simulated {refundPaise : ℤ} (hquiet : live.refunds = [])
    (answer : GatewayRefundAnswer) (mockId : String) :
    ∃ actions, run (liveStep config terms) { live with refunds := [⟨refundPaise, .asked⟩] } actions =
      { live with checkout := refundAtOnce config live.checkout refundPaise answer mockId } := by
  obtain ⟨checkout, createdAt, now, sweeps, transitions, refunds, verifications, captures⟩ := live
  obtain rfl : refunds = [] := hquiet
  unfold refundAtOnce
  cases hlook : lookUpRefund checkout refundPaise with
  | asked =>
    unfold lookUpRefund at hlook
    repeat' split at hlook
    all_goals cases hlook
  | answered reply =>
    refine ⟨[.lookUpRefund ⟨refundPaise, .asked⟩, .closeRefund ⟨refundPaise, .answered reply⟩], ?_⟩
    simp [liveStep, hlook]
  | sent =>
    -- only a paid payment is sent on, so that the status that was read is still its own
    cases hpayment : checkout.payment with
    | none => simp [lookUpRefund, hpayment] at hlook
    | some payment =>
      have hpaid : payment.asRead .paid = payment := by
        unfold lookUpRefund at hlook
        simp only [hpayment] at hlook
        split at hlook
        · cases hlook
        next hpaid =>
          rw [Payment.asRead, ← not_not.mp hpaid]
      refine ⟨[.lookUpRefund ⟨refundPaise, .asked⟩, .sendRefund ⟨refundPaise, .sent⟩ answer mockId,
        .closeRefund ⟨refundPaise,
          .answered (sendRefund config checkout payment refundPaise answer mockId).2⟩], ?_⟩
      simp [liveStep, hlook, hpayment, hpaid]

theorem cancellation_simulated (hquiet : live.Quiescent) (customerId : Id) (reason : String)
    (answer : GatewayRefundAnswer) (mockId : String) :
    ∃ actions, run (liveStep config terms) live actions =
      bookingCallStep config terms live (.cancelBooking customerId reason answer mockId) := by
  obtain ⟨checkout, createdAt, now, sweeps, transitions, refunds, verifications, captures⟩ := live
  obtain ⟨rfl, rfl, rfl, rfl, rfl⟩ := hquiet
  rw [bookingCallStep]
  split
  · exact ⟨[], rfl⟩
  next hreason =>
    dsimp only
    rw [executeCancellation_eq_write]
    cases hstart : startEnding terms checkout
        (.cancel ⟨customerId, .customer, some reason, now⟩) with
    | none => exact ⟨[], rfl⟩
    | some t =>
      dsimp only
      cases hwrite : t.write terms checkout with
      | none =>
        refine ⟨[.cancelBooking customerId reason, .commitTransition t], ?_⟩
        simp [liveStep, LiveBooking.start, hreason, hstart, hwrite]
      | some written =>
        have hwritten : run (liveStep config terms) ⟨checkout, createdAt, now, 0, [], [], [], []⟩
            [.cancelBooking customerId reason, .commitTransition t] =
              ⟨written, createdAt, now, 0, [], t.asked terms, [], []⟩ := by
          simp [liveStep, LiveBooking.start, hreason, hstart, hwrite]
        dsimp only
        split
        next hpos =>
          have hafter : (⟨written, createdAt, now, 0, [], [], [], []⟩ : LiveBooking).refunds = [] := rfl
          obtain ⟨actions, hrefund⟩ := refund_simulated hafter answer mockId
          refine ⟨[.cancelBooking customerId reason, .commitTransition t] ++ actions, ?_⟩
          rw [run_append, hwritten, OpenTransition.asked, if_pos hpos]
          exact hrefund
        next hnone => exact ⟨_, by rw [hwritten, OpenTransition.asked, if_neg hnone]⟩

end Steps

/-- Calls that follow each other on a booking with nothing under way leave what some run of its desk
leaves. -/
theorem booking_calls_simulated (config : PaymentConfig) (terms : TripTerms) {live : LiveBooking}
    (hquiet : live.Quiescent) (calls : List BookingCallAction) :
    ∃ actions, run (liveStep config terms) live actions =
        run (bookingCallStep config terms) live calls ∧
      (run (bookingCallStep config terms) live calls).Quiescent := by
  have hcalls : Along (bookingCallStep config terms) (fun _ _ => True) live calls := along_true ..
  refine hcalls.simulated (R := fun whole cut => cut = whole ∧ whole.Quiescent) ?_ ⟨rfl, hquiet⟩
  rintro _ s call ⟨rfl, hs⟩ -
  have hstill : (bookingCallStep config terms s call).Quiescent := by
    cases call with
    | cancelBooking =>
      rw [bookingCallStep]
      split
      · exact hs
      · exact { hs with }
    | _ => exact { hs with }
  suffices h : ∃ actions, run (liveStep config terms) s actions =
      bookingCallStep config terms s call from h.imp fun _ hrun => ⟨hrun, hstill⟩
  cases call with
  | verifyPayment => exact verification_simulated hs ..
  | paymentCaptured => exact capture_simulated hs ..
  | cancelBooking => exact cancellation_simulated hs ..
  | advance milliseconds => exact ⟨[.advance milliseconds], rfl⟩

/-- A capture that comes a minute after the cancellation. -/
theorem cancelled_then_captured_simulated :
    let calls : List BookingCallAction :=
      [.cancelBooking "customer" "other plans" (.issued "refund" .processed) "", .advance 60000,
        .paymentCaptured "event" (.gateway "order") "pay" (some 116800) (some "INR")]
    ∃ actions, run (liveStep liveConfig sampleTerms) (.opened sampleCheckout 0) actions =
        run (bookingCallStep liveConfig sampleTerms) (.opened sampleCheckout 0) calls ∧
      (run (bookingCallStep liveConfig sampleTerms) (.opened sampleCheckout 0) calls).Quiescent :=
  booking_calls_simulated liveConfig sampleTerms ⟨rfl, rfl, rfl, rfl, rfl⟩ _

end CarRental
