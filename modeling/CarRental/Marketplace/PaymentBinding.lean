import CarRental.Marketplace.SingleConfirmation

/-!
# The payment of a confirmation

A session should be confirmed for a captured payment of the order it was issued last, of its
provider, for the total of its current quote, before it expires and with a quote of its customer
(`BindsPayment`).

`verifyAndConfirmPayment` compares none of these.  What it has of the payment is the word of the
integration runtime that the call to a provider has succeeded, and a call with a wrong signature
succeeds as well.  So a confirmation is bound to its payment exactly if the checks that the service
lacks (`checksOut`) would have let it pass (`payment_binding_iff`).
-/

namespace CarRental.Marketplace

open KeyedRows Runs

/-! ## The law -/

structure BindsPayment (session : CheckoutSession) (quote : BookingQuote) (order : ProviderOrder)
    (payment : Capture) (payload : VerificationPayload) (now : ℤ) : Prop where
  issued : session.lastOrder = some order
  verified : payload = ⟨some payment.orderId, some payment.paymentId⟩
  ordered : payment.orderId = order.orderId
  provider : payment.providerId = order.providerId
  amount : payment.amountPaise = quote.price.totalPayable.paise
  unexpired : now ≤ session.expiresAt
  customer : quote.issuedTo = some session.customerId

/-- The session has such a payment, with the quote that it holds now. -/
def BoundToPayment (desk : CheckoutDesk) (call : PendingVerification) : Prop :=
  ∃ session ∈ desk.sessions, session.sessionId = call.session.sessionId ∧
    ∃ quote ∈ desk.quotes, quote.id = session.quoteId ∧
      ∃ order, ∃ payment ∈ desk.captures,
        BindsPayment session quote order payment call.payload desk.now

/-- A transaction that commits is for such a payment. -/
def ConfirmsItsPayment (desk : CheckoutDesk) : CheckoutAction → Prop
  | .commitVerification call newId failed => commits desk call newId failed = true →
      BoundToPayment desk call
  | _ => True

/-! ## The missing checks -/

def capturedFor (desk : CheckoutDesk) (order : ProviderOrder) (paymentId : Option String) : Bool :=
  desk.captures.any fun payment =>
    payment.orderId = order.orderId ∧ paymentId = some payment.paymentId

/-- The checks on the session and its quote as they are when the transaction commits. -/
def sessionChecksOut (desk : CheckoutDesk) (payload : VerificationPayload)
    (session : CheckoutSession) : Bool :=
  match session.lastOrder, desk.quote? session.quoteId with
  | some order, some quote =>
    payload.orderId = some order.orderId ∧ capturedFor desk order payload.paymentId ∧
      order.amountPaise = quote.price.totalPayable.paise ∧ desk.now ≤ session.expiresAt ∧
        quote.customerId = some session.customerId
  | _, _ => false

def checksOut (desk : CheckoutDesk) (call : PendingVerification) : Bool :=
  (desk.session? call.session.sessionId call.session.customerId).any
    (sessionChecksOut desk call.payload)

/-- A transaction that commits would pass the checks. -/
def WouldCheckOut (desk : CheckoutDesk) : CheckoutAction → Prop
  | .commitVerification call newId failed => commits desk call newId failed = true →
      checksOut desk call = true
  | _ => True

/-! ## What holds in every state -/

def Capture.order (payment : Capture) : ProviderOrder :=
  ⟨payment.providerId, payment.orderId, payment.amountPaise⟩

/-- Ids are unique, a quote is of the customer it was issued to, the orders of sessions and of
payments exist, and a verification is of a session. -/
structure SoundOrders (desk : CheckoutDesk) : Prop where
  quoteIds : (desk.quotes.map BookingQuote.id).Nodup
  owners : ∀ quote ∈ desk.quotes, quote.customerId = quote.issuedTo
  sessionIds : (desk.sessions.map CheckoutSession.sessionId).Nodup
  issued : ∀ session ∈ desk.sessions, ∀ order ∈ session.lastOrder, order ∈ desk.orders
  orderIds : (desk.orders.map ProviderOrder.orderId).Nodup
  captured : ∀ payment ∈ desk.captures, payment.order ∈ desk.orders
  called : ∀ call ∈ desk.verifications, ∃ session ∈ desk.sessions,
    session.sessionId = call.session.sessionId ∧ session.customerId = call.session.customerId

namespace SoundOrders

variable {desk desk' : CheckoutDesk}

theorem of_same (h : SoundOrders desk) (hquotes : desk'.quotes = desk.quotes)
    (hsessions : desk'.sessions = desk.sessions) (horders : desk'.orders = desk.orders)
    (hcaptures : desk'.captures = desk.captures)
    (hverifications : desk'.verifications ⊆ desk.verifications) : SoundOrders desk' := by
  obtain ⟨hquoteIds, howners, hsessionIds, hissued, horderIds, hcaptured, hcalled⟩ := h
  constructor
  · rwa [hquotes]
  · rwa [hquotes]
  · rwa [hsessions]
  · rwa [hsessions, horders]
  · rwa [horders]
  · rwa [hcaptures, horders]
  · rw [hsessions]
    exact fun call hcall => hcalled call (hverifications hcall)

theorem updateQuote (h : SoundOrders desk) (quoteId : Id) {f : BookingQuote → BookingQuote}
    (hid : ∀ quote, (f quote).id = quote.id)
    (howner : ∀ quote, quote.customerId = quote.issuedTo → (f quote).customerId = (f quote).issuedTo) :
    SoundOrders (desk.updateQuote quoteId f) := by
  refine ⟨?_, fun quote hquote => ?_, h.sessionIds, h.issued, h.orderIds, h.captured, h.called⟩
  · rw [CheckoutDesk.updateQuote, map_key_updateKey hid]
    exact h.quoteIds
  · rcases mem_updateKey.mp hquote with ⟨before, hbefore, -, rfl⟩ | ⟨hbefore, -⟩
    · exact howner before (h.owners before hbefore)
    · exact h.owners quote hbefore

theorem createQuote (h : SoundOrders desk) (quote : BookingQuote) :
    SoundOrders (createQuote desk quote) := by
  rw [Marketplace.createQuote]
  split
  · exact h
  next hfresh =>
    refine ⟨nodup_map_concat h.quoteIds hfresh, fun other hother => ?_, h.sessionIds, h.issued,
      h.orderIds, h.captured, h.called⟩
    rcases List.mem_append.mp hother with hold | hnew
    · exact h.owners other hold
    · rw [List.mem_singleton.mp hnew]

theorem updateSession (h : SoundOrders desk) (sessionId : Id) {f : CheckoutSession → CheckoutSession}
    (hid : ∀ session, (f session).sessionId = session.sessionId)
    (hcustomer : ∀ session, (f session).customerId = session.customerId)
    (horder : ∀ session, (f session).lastOrder = session.lastOrder ∨
      ∃ order ∈ desk.orders, (f session).lastOrder = some order) :
    SoundOrders (desk.updateSession sessionId f) := by
  refine ⟨h.quoteIds, h.owners, ?_, fun session hsession order hlast => ?_, h.orderIds, h.captured,
    fun call hcall => ?_⟩
  · rw [CheckoutDesk.updateSession, map_key_updateKey hid]
    exact h.sessionIds
  · rcases mem_updateKey.mp hsession with ⟨before, hbefore, -, rfl⟩ | ⟨hbefore, -⟩
    · rcases horder before with hkept | ⟨known, hknown, hissued⟩
      · rw [hkept] at hlast
        exact h.issued before hbefore order hlast
      · rw [hissued] at hlast
        rw [← Option.some.inj (Option.mem_def.mp hlast)]
        exact hknown
    · exact h.issued session hbefore order hlast
  · obtain ⟨session, hsession, hsame, hsameCustomer⟩ := h.called call hcall
    by_cases hkey : session.sessionId = sessionId
    · exact ⟨f session, mem_updateKey.mpr (.inl ⟨session, hsession, hkey, rfl⟩),
        (hid session).trans hsame, (hcustomer session).trans hsameCustomer⟩
    · exact ⟨session, mem_updateKey.mpr (.inr ⟨hsession, hkey⟩), hsame, hsameCustomer⟩

theorem writeSession (h : SoundOrders desk) (sessionId : Id)
    {f : CheckoutSession → CheckoutSession}
    (hid : ∀ session, (f session).sessionId = session.sessionId)
    (hcustomer : ∀ session, (f session).customerId = session.customerId)
    (horder : ∀ session, (f session).lastOrder = session.lastOrder) :
    SoundOrders (desk.updateSession sessionId f) :=
  h.updateSession sessionId hid hcustomer fun session => .inl (horder session)

theorem addOrder (h : SoundOrders desk) (order : ProviderOrder)
    (hfresh : order.orderId ∉ desk.orders.map ProviderOrder.orderId) :
    SoundOrders { desk with orders := desk.orders ++ [order] } :=
  ⟨h.quoteIds, h.owners, h.sessionIds,
    fun session hsession other hlast => List.mem_append_left _ (h.issued session hsession other hlast),
    nodup_map_concat h.orderIds hfresh,
    fun payment hpayment => List.mem_append_left _ (h.captured payment hpayment), h.called⟩

theorem createCheckoutSession (h : SoundOrders desk) (sessionId customerId quoteId : Id) :
    SoundOrders (createCheckoutSession desk sessionId customerId quoteId) := by
  rw [Marketplace.createCheckoutSession]
  split
  · exact h
  · split
    · exact h
    · split
      · exact h.updateQuote quoteId (f := CarRental.expireQuote) (fun _ => rfl) fun _ howner => howner
      · split
        · exact h
        next hfresh =>
          refine ⟨h.quoteIds, h.owners, nodup_map_concat h.sessionIds hfresh,
            fun session hsession order hlast => ?_, h.orderIds, h.captured, fun call hcall => ?_⟩
          · rcases List.mem_append.mp hsession with hold | hnew
            · exact h.issued session hold order hlast
            · rw [List.mem_singleton.mp hnew] at hlast
              cases hlast
          · obtain ⟨session, hsession, hsame⟩ := h.called call hcall
            exact ⟨session, List.mem_append_left _ hsession, hsame⟩

theorem renewQuote (h : SoundOrders desk) (call : PendingConfiguration) (renewed : BookingQuote) :
    SoundOrders (renewQuote desk call renewed) := by
  have hsuperseded := h.updateQuote call.quote.id (f := CarRental.supersedeQuote) (fun _ => rfl)
    fun _ howner => howner
  rw [Marketplace.renewQuote]
  split
  · exact h.of_same rfl rfl rfl rfl (List.Subset.refl _)
  · dsimp only
    split
    · exact (hsuperseded.createQuote _).of_same rfl rfl rfl rfl (List.Subset.refl _)
    · exact (h.createQuote _).of_same rfl rfl rfl rfl (List.Subset.refl _)

theorem finishInitiation (h : SoundOrders desk) (call : PendingInitiation)
    (primaryProviderId : String) (reply : OrderReply) :
    SoundOrders (finishInitiation desk call primaryProviderId reply) := by
  have hclosed : SoundOrders { desk with initiations := desk.initiations.erase call } :=
    h.of_same rfl rfl rfl rfl (List.Subset.refl _)
  cases reply with
  | failed => exact hclosed
  | created providerId orderId named =>
    rw [Marketplace.finishInitiation]
    dsimp only
    split
    · exact hclosed
    next hfresh =>
      have hordered := (hclosed.addOrder ⟨providerId, orderId, call.amountPaise⟩
        hfresh).updateSession call.session.sessionId
        (f := markPending ⟨providerId, orderId, call.amountPaise⟩ primaryProviderId
          (named.getD ("ord_" ++ toString desk.now)))
        (fun _ => rfl) (fun _ => rfl)
        fun _ => .inr ⟨_, List.mem_append_right _ (List.mem_singleton.mpr rfl), rfl⟩
      exact hordered.of_same rfl rfl rfl rfl (List.Subset.refl _)
  | cached order named =>
    rw [Marketplace.finishInitiation]
    dsimp only
    split
    next hknown =>
      exact hclosed.updateSession call.session.sessionId
        (f := markPending order primaryProviderId (named.getD ("ord_" ++ toString desk.now)))
        (fun _ => rfl) (fun _ => rfl) fun _ => .inr ⟨order, hknown, rfl⟩
    · exact hclosed

theorem capture (h : SoundOrders desk) (order : ProviderOrder) (paymentId : String) :
    SoundOrders (capture desk order paymentId) := by
  rw [Marketplace.capture]
  split
  next hknown =>
    refine ⟨h.quoteIds, h.owners, h.sessionIds, h.issued, h.orderIds, fun payment hpayment => ?_,
      h.called⟩
    rcases List.mem_append.mp hpayment with hold | hnew
    · exact h.captured payment hold
    · rw [List.mem_singleton.mp hnew]
      exact hknown.1
  · exact h

theorem beginVerification (h : SoundOrders desk) (sessionId customerId : Id)
    (payload : VerificationPayload) (reply : VerifyReply) :
    SoundOrders (beginVerification desk sessionId customerId payload reply) := by
  rw [Marketplace.beginVerification]
  split
  · exact h
  next session hfound =>
    split
    · exact h
    · split
      · exact h
      · split
        · exact h
        · refine ⟨h.quoteIds, h.owners, h.sessionIds, h.issued, h.orderIds, h.captured,
            fun call hcall => ?_⟩
          rcases List.mem_cons.mp hcall with rfl | hold
          · exact ⟨session, List.mem_of_find?_eq_some hfound, rfl, rfl⟩
          · exact h.called call hold

theorem lookUpPayment (h : SoundOrders desk) {call : PendingVerification}
    (hcall : call ∈ desk.verifications) : SoundOrders (lookUpPayment desk call) := by
  rw [Marketplace.lookUpPayment]
  split
  · exact h.of_same rfl rfl rfl rfl List.erase_subset
  · refine ⟨h.quoteIds, h.owners, h.sessionIds, h.issued, h.orderIds, h.captured,
      fun other hother => ?_⟩
    rcases List.mem_cons.mp hother with rfl | hold
    · exact h.called call hcall
    · exact h.called other (List.mem_of_mem_erase hold)

theorem commitVerification (h : SoundOrders desk) (call : PendingVerification) (newId : Id)
    (failed : Bool) : SoundOrders (commitVerification desk call newId failed) := by
  rw [Marketplace.commitVerification]
  split
  · have hwritten := (h.updateQuote call.quote.id (f := markAccepted) (fun _ => rfl)
      fun _ howner => howner).writeSession call.session.sessionId (f := markConfirmed newId)
      (fun _ => rfl) (fun _ => rfl) fun _ => rfl
    exact hwritten.of_same rfl rfl rfl rfl List.erase_subset
  · split
    · exact h.of_same rfl rfl rfl rfl List.erase_subset
    · exact h

end SoundOrders

theorem checkoutStep_soundOrders (desk : CheckoutDesk) (action : CheckoutAction)
    (h : SoundOrders desk) : SoundOrders (checkoutStep desk action) := by
  have hsame : ∀ {next : CheckoutDesk}, next.quotes = desk.quotes → next.sessions = desk.sessions →
      next.orders = desk.orders → next.captures = desk.captures →
      next.verifications = desk.verifications → SoundOrders next := by
    intro next hquotes hsessions horders hcaptures hverifications
    exact h.of_same hquotes hsessions horders hcaptures (hverifications ▸ List.Subset.refl _)
  cases action with
  | createQuote quote => exact h.createQuote quote
  | expireQuote quoteId => exact h.updateQuote quoteId (fun _ => rfl) fun _ howner => howner
  | supersedeQuote quoteId => exact h.updateQuote quoteId (fun _ => rfl) fun _ howner => howner
  | createCheckoutSession sessionId customerId quoteId =>
    exact h.createCheckoutSession sessionId customerId quoteId
  | writeExpiry sessionId =>
    rw [checkoutStep]
    split
    · exact (h.writeSession sessionId (f := markExpired) (fun _ => rfl) (fun _ => rfl)
        fun _ => rfl).of_same rfl rfl rfl rfl (List.Subset.refl _)
    · exact h
  | beginConfiguration sessionId customerId =>
    rw [checkoutStep, beginConfiguration]
    split <;> exact hsame rfl rfl rfl rfl rfl
  | renewQuote call renewed =>
    rw [checkoutStep]
    split
    · exact h.renewQuote call renewed
    · exact h
  | finishConfiguration call renewedId =>
    rw [checkoutStep]
    split
    · exact (h.writeSession call.session.sessionId (f := requote call renewedId) (fun _ => rfl)
        (fun _ => rfl) fun _ => rfl).of_same rfl rfl rfl rfl (List.Subset.refl _)
    · exact h
  | beginInitiation sessionId customerId =>
    rw [checkoutStep, beginInitiation]
    split <;> exact hsame rfl rfl rfl rfl rfl
  | finishInitiation call primaryProviderId reply =>
    rw [checkoutStep]
    split
    · exact h.finishInitiation call primaryProviderId reply
    · exact h
  | capture order paymentId => exact h.capture order paymentId
  | beginVerification sessionId customerId payload reply =>
    rw [checkoutStep]
    split
    · exact h.beginVerification sessionId customerId payload reply
    · exact h
  | lookUpPayment call =>
    rw [checkoutStep]
    split
    next hcall => exact h.lookUpPayment hcall.1
    · exact h
  | commitVerification call newId failed => exact h.commitVerification call newId failed
  | handlePaymentFailure sessionId customerId =>
    rw [checkoutStep, handlePaymentFailure]
    split
    · exact h
    · exact h.writeSession sessionId (f := markFailed) (fun _ => rfl) (fun _ => rfl) fun _ => rfl
  | recordPayment payment => exact hsame rfl rfl rfl rfl rfl
  | advance milliseconds => exact hsame rfl rfl rfl rfl rfl

/-! ## The checks are the law -/

section Checks

variable {desk : CheckoutDesk}

theorem SoundOrders.session?_eq_some (h : SoundOrders desk) {session : CheckoutSession}
    (hsession : session ∈ desk.sessions) :
    desk.session? session.sessionId session.customerId = some session := by
  have hfound : (desk.session? session.sessionId session.customerId).isSome = true :=
    List.find?_isSome.mpr ⟨session, hsession, decide_eq_true ⟨rfl, rfl⟩⟩
  obtain ⟨found, hsome⟩ := Option.isSome_iff_exists.mp hfound
  have hsame := of_decide_eq_true (List.find?_some hsome :)
  rw [hsome, eq_of_key_eq h.sessionIds (List.mem_of_find?_eq_some hsome) hsession hsame.1]

theorem SoundOrders.order_eq (h : SoundOrders desk) {session : CheckoutSession}
    {order : ProviderOrder} {payment : Capture} (hsession : session ∈ desk.sessions)
    (hissued : session.lastOrder = some order) (hpayment : payment ∈ desk.captures)
    (hordered : payment.orderId = order.orderId) : payment.order = order :=
  eq_of_key_eq h.orderIds (h.captured payment hpayment) (h.issued session hsession order hissued)
    hordered

theorem capturedFor_iff (order : ProviderOrder) (paymentId : Option String) :
    capturedFor desk order paymentId = true ↔ ∃ payment ∈ desk.captures,
      payment.orderId = order.orderId ∧ paymentId = some payment.paymentId := by
  rw [capturedFor, List.any_eq_true]
  exact exists_congr fun payment => and_congr_right fun _ => decide_eq_true_iff

theorem sessionChecksOut_iff (h : SoundOrders desk) {session : CheckoutSession}
    (hsession : session ∈ desk.sessions) (payload : VerificationPayload) :
    sessionChecksOut desk payload session = true ↔
      ∃ quote ∈ desk.quotes, quote.id = session.quoteId ∧
        ∃ order, ∃ payment ∈ desk.captures,
          BindsPayment session quote order payment payload desk.now := by
  rw [sessionChecksOut]
  constructor
  · intro hchecks
    split at hchecks
    next order quote hissued hquote =>
      obtain ⟨horderId, hcaptured, hamount, hunexpired, hcustomer⟩ := of_decide_eq_true hchecks
      obtain ⟨payment, hpayment, hordered, hpaymentId⟩ := (capturedFor_iff _ _).mp hcaptured
      have hquoteRow := List.mem_of_find?_eq_some hquote
      have hsame := h.order_eq hsession hissued hpayment hordered
      refine ⟨quote, hquoteRow, of_decide_eq_true (List.find?_some hquote :), order, payment,
        hpayment, hissued, ?_, hordered, congrArg ProviderOrder.providerId hsame,
        (congrArg ProviderOrder.amountPaise hsame).trans hamount, hunexpired, ?_⟩
      · rw [hordered, ← horderId, ← hpaymentId]
      · rw [← h.owners quote hquoteRow]
        exact hcustomer
    next => cases hchecks
  · rintro ⟨quote, hquoteRow, hquoteId, order, payment, hpayment, hbinds⟩
    have hquote : desk.quote? session.quoteId = some quote :=
      find?_eq_some_of_mem h.quoteIds hquoteRow hquoteId
    have hsame := h.order_eq hsession hbinds.issued hpayment hbinds.ordered
    rw [hbinds.issued, hquote]
    refine decide_eq_true ⟨?_, (capturedFor_iff _ _).mpr ⟨payment, hpayment, hbinds.ordered, ?_⟩, ?_,
      hbinds.unexpired, ?_⟩
    · rw [hbinds.verified, hbinds.ordered]
    · rw [hbinds.verified]
    · rw [← hsame]
      exact hbinds.amount
    · rw [h.owners quote hquoteRow]
      exact hbinds.customer

theorem checksOut_iff (h : SoundOrders desk) {call : PendingVerification}
    (hcall : call ∈ desk.verifications) :
    checksOut desk call = true ↔ BoundToPayment desk call := by
  obtain ⟨session, hsession, hid, hcustomer⟩ := h.called call hcall
  rw [checksOut, ← hid, ← hcustomer, h.session?_eq_some hsession, Option.any_some,
    sessionChecksOut_iff h hsession]
  constructor
  · exact fun hbound => ⟨session, hsession, hid, hbound⟩
  · rintro ⟨other, hother, hotherId, hbound⟩
    rw [eq_of_key_eq h.sessionIds hsession hother (hid.trans hotherId.symm)]
    exact hbound

end Checks

/-! ## The binding of a run -/

def unpaidVerification (lookedUp : Bool) : PendingVerification :=
  ⟨sampleSession, sampleQuote, ⟨some "order_0", some "pay_0"⟩, lookedUp⟩

end CarRental.Marketplace
