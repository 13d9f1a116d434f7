import CarRental.Payments.StatusLaw

/-!
# Captures of orders that were issued

The payment row has room for one gateway order.  `createOrder` overwrites it when it
renews the order, and nothing cancels the older one at the gateway, where it can still be
paid.  The capture event finds the payment by the order on the row, so the older order is
matched only as long as every renewal gives the same order again.

## Strategy

The orders that were issued are kept beside the checkout.  Only `createOrder` touches the
order on the row (`paymentStep_orderRef`), and what it writes is the order it returns
(`createOrder_order`), so exactly the renewals with another order leave one unmatched.
-/

namespace CarRental

open Runs

/-- A checkout and every order that was issued for its booking. -/
structure IssuedOrders where
  checkout : Checkout
  issued : List OrderId

namespace IssuedOrders

/-- A booking's checkout, with the order that its payment row already has. -/
def start (s : Checkout) : IssuedOrders :=
  ⟨s, (s.payment.bind Payment.razorpayOrderId).toList⟩

def returned (config : PaymentConfig) (s : Checkout) : PaymentAction → List OrderId
  | .createOrder customerId useWallet newPaymentId gatewayOrder nonce =>
    match (createOrder config s customerId useWallet newPaymentId gatewayOrder nonce).2 with
    | .ok reply => [reply.orderId]
    | .error _ => []
  | _ => []

def step (config : PaymentConfig) (h : IssuedOrders) (action : PaymentAction) : IssuedOrders :=
  ⟨paymentStep config h.checkout action, h.issued ++ returned config h.checkout action⟩

/-- The capture of an issued order, by whatever gateway payment, is matched to the
booking's payment row. -/
def CapturesMatched (h : IssuedOrders) : Prop :=
  ∀ orderId ∈ h.issued, ∀ paymentId : String,
    ∃ payment ∈ h.checkout.payment, payment.matchesCapture orderId paymentId = true

/-- An order that is created or renewed is the one that was issued before.  An order that
bears the id of the payment row is found by that id. -/
def KeepsOrder (config : PaymentConfig) (h : IssuedOrders) : PaymentAction → Prop
  | .createOrder customerId useWallet newPaymentId gatewayOrder nonce =>
    OrderOpens config h.checkout customerId useWallet gatewayOrder ∧
        h.checkout.paymentStatus ≠ some .paid ∧ h.checkout.paymentStatus ≠ some .refunded →
      ∀ orderId ∈ orderFor config h.checkout (walletShare h.checkout useWallet) gatewayOrder
          nonce,
        ∀ earlier ∈ h.issued,
          earlier = orderId ∨
            earlier = .gateway ((h.checkout.payment.map Payment.id).getD newPaymentId)
  | _ => True

end IssuedOrders

/-! ## The order on the row -/

section Frame

variable {config : PaymentConfig} {s s' : Checkout}

theorem verifyPayment_orderRef (customerId : Id) (dto : VerifyPaymentDto) (signatureValid : Bool)
    (fetch : PaymentFetch) :
    (verifyPayment config s customerId dto signatureValid fetch).1.orderRef = s.orderRef := by
  unfold verifyPayment
  split
  · rfl
  cases hpayment : s.payment with
  | none => rfl
  | some payment =>
    simp only
    split
    · rfl
    split
    · split <;> rfl
    split
    · rfl
    split
    · rfl
    · exact setPayment_orderRef hpayment rfl rfl
    next gatewayPaid walletRequired _ =>
      cases htx : verifyTransaction config s payment dto gatewayPaid walletRequired with
      | error e => rfl
      | ok s' =>
        -- the transaction writes the payment once, by an update of its row
        obtain ⟨-, wallet, auditLog, ledger, coupon, couponUsages, rfl⟩ :=
          verifyTransaction_writes htx
        exact setPayment_orderRef (s := s) hpayment rfl rfl

theorem handleWebhook_orderRef (eventId : String) (event : WebhookEvent) :
    (handleWebhook s eventId event).1.orderRef = s.orderRef := by
  unfold handleWebhook
  split
  · rfl
  · exact (webhookRun_getLastD_frame (recordEvent s eventId) eventId event).orderRef

theorem refund_orderRef (request : RefundRequest) (answer : GatewayRefundAnswer)
    (mockId : String) : (refund config s request answer mockId).1.orderRef = s.orderRef := by
  unfold refund
  cases hpayment : s.payment with
  | none => rfl
  | some payment =>
    simp only
    split
    · rfl
    split
    · exact setPayment_orderRef hpayment rfl rfl
    split
    · rfl
    split
    · rfl
    split
    · rfl
    next s₁ refundId status hgateway =>
      obtain ⟨gatewayRefunds, rfl⟩ := gatewayRefund_eq_ok hgateway
      split
      · rfl
      next s₂ hwallet =>
        obtain ⟨wallet, rfl⟩ := walletRefund_eq_ok hwallet
        exact setPayment_orderRef (s := s) hpayment rfl rfl

theorem adminRefund_orderRef (dto : AdminRefundDto) (adminId : Id) (isAdmin : Bool)
    (generatedKey : String) (answer : GatewayRefundAnswer) (mockId : String) :
    (adminRefund config s dto adminId isAdmin generatedKey answer mockId).1.orderRef =
      s.orderRef := by
  unfold adminRefund
  split
  · rfl
  split
  · rfl
  split
  · rfl
  simp only
  split
  · rfl
  split
  · rfl
  · exact refund_orderRef _ answer mockId

end Frame

section Orders

variable {config : PaymentConfig} {s : Checkout} {customerId newPaymentId : Id} {useWallet : Bool}
  {gatewayOrder : Option String} {nonce : String}

theorem createOrder_order (newPaymentId : Id) (nonce : String)
    (hopens : OrderOpens config s customerId useWallet gatewayOrder ∧
      s.paymentStatus ≠ some .paid ∧ s.paymentStatus ≠ some .refunded) :
    ∃ orderId,
      orderFor config s (walletShare s useWallet) gatewayOrder nonce = some orderId ∧
        IssuedOrders.returned config s
          (.createOrder customerId useWallet newPaymentId gatewayOrder nonce) = [orderId] ∧
        ∃ payment,
          (createOrder config s customerId useWallet newPaymentId gatewayOrder nonce).1.payment =
            some payment ∧
          payment.razorpayOrderId = some orderId ∧
          payment.id = (s.payment.map Payment.id).getD newPaymentId := by
  obtain ⟨⟨hcustomer, hpending, hquote, horder, hfits⟩, hpaid, hrefunded⟩ := hopens
  obtain ⟨orderId, horderId⟩ := Option.isSome_iff_exists.mp
    ((orderFor_isSome nonce).mpr horder)
  have hamount : (Column.ofPaise? s.totalExpected : Option Money) = some ⟨s.totalExpected, hfits⟩ :=
    Column.ofPaise?_eq_some.mpr rfl
  refine ⟨orderId, horderId, ?_, orderedPayment s.payment newPaymentId orderId
    ⟨s.totalExpected, hfits⟩, ?_, (orderedPayment_eq ..).2.1, ?_⟩
  · simp only [IssuedOrders.returned, createOrder, hcustomer, hpending, hpaid, hrefunded, hquote,
      horderId, hamount, ne_eq, not_true_eq_false, or_self, if_false, Bool.false_eq_true]
  · simp only [createOrder, hcustomer, hpending, hpaid, hrefunded, hquote, horderId, hamount,
      ne_eq, not_true_eq_false, or_self, if_false, Bool.false_eq_true, Checkout.audit_payment,
      Checkout.setPayment_payment]
  · unfold orderedPayment
    cases s.payment <;> rfl

theorem returned_of_not_opens
    (h : ¬ (OrderOpens config s customerId useWallet gatewayOrder ∧
      s.paymentStatus ≠ some .paid ∧ s.paymentStatus ≠ some .refunded)) :
    IssuedOrders.returned config s
      (.createOrder customerId useWallet newPaymentId gatewayOrder nonce) = [] := by
  obtain ⟨e, hrefused⟩ := createOrder_refused newPaymentId nonce h
  simp only [IssuedOrders.returned, hrefused]

end Orders

theorem paymentStep_orderRef {config : PaymentConfig} {s : Checkout} {action : PaymentAction}
    (h : IssuedOrders.returned config s action = []) :
    (paymentStep config s action).orderRef = s.orderRef := by
  cases action with
  | createOrder customerId useWallet newPaymentId gatewayOrder nonce =>
    by_cases hopens : OrderOpens config s customerId useWallet gatewayOrder ∧
        s.paymentStatus ≠ some .paid ∧ s.paymentStatus ≠ some .refunded
    case neg => rw [paymentStep, createOrder_of_not_opens hopens]
    -- an order that opens is returned
    obtain ⟨orderId, -, hreturned, -⟩ := createOrder_order newPaymentId nonce hopens
    rw [hreturned] at h
    cases h
  | verifyPayment customerId dto signatureValid fetch =>
    exact verifyPayment_orderRef customerId dto signatureValid fetch
  | webhook eventId event => exact handleWebhook_orderRef eventId event
  | refund request answer mockId => exact refund_orderRef request answer mockId
  | adminRefund dto adminId isAdmin generatedKey answer mockId =>
    exact adminRefund_orderRef dto adminId isAdmin generatedKey answer mockId

/-! ## The law -/

namespace IssuedOrders

variable {config : PaymentConfig} {h : IssuedOrders} {orderId : OrderId} {payment : Payment}

theorem matched_iff :
    (∀ paymentId : String, payment.matchesCapture orderId paymentId = true) ↔
      payment.razorpayOrderId = some orderId ∨ orderId = .gateway payment.id := by
  simp only [Payment.matchesCapture, Bool.or_eq_true, decide_eq_true_eq]
  constructor
  · intro hall
    -- a gateway payment that is not the one on the row
    obtain ⟨other, hother⟩ : ∃ other : String, payment.razorpayPaymentId ≠ some other := by
      by_cases hempty : payment.razorpayPaymentId = some ""
      · exact ⟨"other", by rw [hempty]; decide⟩
      · exact ⟨"", hempty⟩
    rcases hall other with (horder | hpaymentId) | hid
    · exact .inl horder
    · exact absurd hpaymentId hother
    · exact .inr hid
  · rintro (horder | hid) paymentId
    · exact .inl (.inl horder)
    · exact .inr hid

theorem capturesMatched_iff (hpayment : h.checkout.payment = some payment) :
    h.CapturesMatched ↔ ∀ orderId ∈ h.issued,
      payment.razorpayOrderId = some orderId ∨ orderId = .gateway payment.id := by
  unfold CapturesMatched
  refine forall₂_congr fun orderId _ => ?_
  rw [← matched_iff]
  simp [hpayment]

theorem capturesMatched_congr {h' : IssuedOrders} (hissued : h'.issued = h.issued)
    (horder : h'.checkout.orderRef = h.checkout.orderRef) :
    h'.CapturesMatched ↔ h.CapturesMatched := by
  cases hpayment : h.checkout.payment with
  | none =>
    have hnone : h'.checkout.payment = none := by
      rw [Checkout.orderRef, Checkout.orderRef, hpayment] at horder
      exact Option.map_eq_none_iff.mp horder
    simp [CapturesMatched, hissued, hpayment, hnone]
  | some payment =>
    rw [Checkout.orderRef, Checkout.orderRef, hpayment] at horder
    obtain ⟨payment', hpayment', heq⟩ := Option.map_eq_some_iff.mp horder
    obtain ⟨hid, hrow⟩ := Prod.ext_iff.mp heq
    simp only at hid hrow
    rw [capturesMatched_iff hpayment, capturesMatched_iff hpayment', hissued, hid, hrow]

theorem start_capturesMatched (s : Checkout) : (start s).CapturesMatched := by
  cases hpayment : s.payment with
  | none => simp [start, CapturesMatched, hpayment]
  | some payment =>
    rw [capturesMatched_iff (h := start s) hpayment]
    intro orderId horder
    simp only [start, hpayment, Option.bind_some, Option.mem_toList] at horder
    exact .inl horder

theorem step_capturesMatched_iff (action : PaymentAction) (hmatched : h.CapturesMatched) :
    (step config h action).CapturesMatched ↔ KeepsOrder config h action := by
  by_cases hreturned : returned config h.checkout action = []
  · have hsame : (step config h action).CapturesMatched :=
      (capturesMatched_congr (by simp [step, hreturned]) (paymentStep_orderRef hreturned)).mpr
        hmatched
    refine iff_of_true hsame ?_
    cases action with
    | createOrder customerId useWallet newPaymentId gatewayOrder nonce =>
      intro hopens
      obtain ⟨orderId, -, hsome, -⟩ := createOrder_order newPaymentId nonce hopens
      rw [hsome] at hreturned
      cases hreturned
    | verifyPayment => trivial
    | webhook => trivial
    | refund => trivial
    | adminRefund => trivial
  · cases action with
    | createOrder customerId useWallet newPaymentId gatewayOrder nonce =>
      have hopens := not_not.mp (mt returned_of_not_opens hreturned)
      obtain ⟨orderId, horderFor, hsome, payment, hpayment, horder, hid⟩ :=
        createOrder_order newPaymentId nonce hopens
      have hrow : (step config h
          (.createOrder customerId useWallet newPaymentId gatewayOrder nonce)).checkout.payment =
            some payment := hpayment
      rw [capturesMatched_iff hrow, KeepsOrder]
      simp only [step, hsome, horderFor, horder, hid, List.mem_append,
        List.mem_singleton, Option.mem_def, Option.some.injEq]
      constructor
      · intro hall _ newOrder hnew earlier hearlier
        subst hnew
        exact (hall earlier (.inl hearlier)).imp Eq.symm id
      · intro hkeeps other hother
        rcases hother with hearlier | rfl
        · exact (hkeeps hopens orderId rfl other hearlier).imp Eq.symm id
        · exact .inl rfl
    | verifyPayment => exact absurd rfl hreturned
    | webhook => exact absurd rfl hreturned
    | refund => exact absurd rfl hreturned
    | adminRefund => exact absurd rfl hreturned

end IssuedOrders

/-- **When every issued order is matched.**  Along a run of calls and events, every capture
of an order that was issued up to then is matched to the payment row exactly when no order
is ever renewed with another one. -/
theorem issued_orders_matched_iff (config : PaymentConfig) (s : Checkout)
    (actions : List PaymentAction) :
    Everywhere (IssuedOrders.step config) IssuedOrders.CapturesMatched (.start s) actions ↔
      Along (IssuedOrders.step config) (IssuedOrders.KeepsOrder config) (.start s) actions :=
  everywhere_iff_along
    (fun _ action _ hmatched => IssuedOrders.step_capturesMatched_iff action hmatched)
    (IssuedOrders.start_capturesMatched s)

/-- The order is renewed; the capture of the older one is not matched, and nothing is
settled by it. -/
theorem renewed_order_unmatched :
    ¬ ∀ (config : PaymentConfig) (s : Checkout) (actions : List PaymentAction),
      Everywhere (IssuedOrders.step config) IssuedOrders.CapturesMatched (.start s) actions := by
  intro hall
  have hmatched := (hall liveConfig sampleCheckout
    [.createOrder "customer" false "payment" (some "renewed") ""]).last
  obtain ⟨payment, hpayment, hcapture⟩ := hmatched (.gateway "order") (by decide +kernel) "pay"
  revert hcapture
  have hrow : (run (IssuedOrders.step liveConfig) (.start sampleCheckout)
      [.createOrder "customer" false "payment" (some "renewed") ""]).checkout.payment =
        some { samplePayment with razorpayOrderId := some (.gateway "renewed") } := by
    decide +kernel
  rw [hrow] at hpayment
  cases hpayment
  decide +kernel

end CarRental
