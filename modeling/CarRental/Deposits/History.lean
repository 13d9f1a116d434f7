import CarRental.Deposits.RefundTruth

/-!
# What no call takes back

The audit log, the ledger, the entries of the wallet, the refund rows and the recorded events of a
checkout are a record of what has happened.  Every call of the payments and of the deposits adds to
them at the end and leaves what they hold (`Extends`), so that in a history each of them is a
beginning of what it becomes later (`history_kept`).
-/

namespace CarRental

open Runs

/-- Each record of the first state is a beginning of that of the second.  Of an event and of a
refund at the gateway it is the id that stays; their statuses move. -/
structure Extends (s s' : Checkout) : Prop where
  auditLog : s.auditLog <+: s'.auditLog
  ledger : s.ledger.entries <+: s'.ledger.entries
  wallet : s.wallet.entries <+: s'.wallet.entries
  refunds : s.refunds <+: s'.refunds
  events : s.webhookEvents.map (·.eventId) <+: s'.webhookEvents.map (·.eventId)
  gatewayRefunds : s.gatewayRefunds.map (·.id) <+: s'.gatewayRefunds.map (·.id)

namespace Extends

variable {s t u : Checkout}

theorem refl (s : Checkout) : Extends s s :=
  ⟨List.prefix_rfl, List.prefix_rfl, List.prefix_rfl, List.prefix_rfl, List.prefix_rfl,
    List.prefix_rfl⟩

theorem trans (h : Extends s t) (h' : Extends t u) : Extends s u where
  auditLog := h.auditLog.trans h'.auditLog
  ledger := h.ledger.trans h'.ledger
  wallet := h.wallet.trans h'.wallet
  refunds := h.refunds.trans h'.refunds
  events := h.events.trans h'.events
  gatewayRefunds := h.gatewayRefunds.trans h'.gatewayRefunds

theorem audit (h : Extends s t) (entry : PaymentAuditEntry) : Extends s (t.audit entry) :=
  { h with auditLog := h.auditLog.trans (List.prefix_append _ _) }

theorem setPayment (h : Extends s t) (payment : Payment) : Extends s (t.setPayment payment) :=
  { h with }

theorem setDeposit (h : Extends s t) (deposit : SecurityDeposit) :
    Extends s (CarRental.setDeposit t deposit) :=
  { h with }

theorem holdDeposit (h : Extends s t) (razorpayPaymentId : String) :
    Extends s (CarRental.holdDeposit t razorpayPaymentId) :=
  { h with }

theorem markProcessed (h : Extends s t) (eventId : String) :
    Extends s (CarRental.markProcessed t eventId) := by
  have hids : (CarRental.markProcessed t eventId).webhookEvents.map (·.eventId) =
      t.webhookEvents.map (·.eventId) := by
    simp only [CarRental.markProcessed, List.map_map]
    refine List.map_congr_left fun row _ => ?_
    simp only [Function.comp]
    split <;> rfl
  exact { h with events := h.events.trans (hids ▸ List.prefix_rfl) }

theorem recordJournal {ledger : Ledger JournalKey} {input : RecordJournalInput JournalKey}
    {receipt : JournalReceipt JournalKey} (h : Extends s t)
    (hrecord : CarRental.recordJournal t.ledger input = .ok (ledger, receipt)) :
    Extends s { t with ledger } := by
  refine { h with ledger := h.ledger.trans ?_ }
  rcases recordJournal_eq_ok hrecord with ⟨-, rfl⟩ | ⟨-, -, -, -, rfl, -, -⟩
  · exact List.prefix_rfl
  · exact List.prefix_append _ _

end Extends

section Calls

variable {config : PaymentConfig} {s s' : Checkout} {payment : Payment}

theorem createOrder_extends (customerId : Id) (useWallet : Bool) (newPaymentId : Id)
    (gatewayOrder : Option String) (nonce : String) :
    Extends s (createOrder config s customerId useWallet newPaymentId gatewayOrder nonce).1 := by
  unfold createOrder
  dsimp only
  repeat' split
  all_goals first | exact .refl s | exact ((Extends.refl s).setPayment _).audit _

theorem debitWallet_entries {wallet wallet' : Wallet} {amount : ℤ} {type : LedgerEntryType}
    {referenceType : String} {referenceId : Option Id} {idempotencyKey : String}
    (h : wallet.debitWallet config amount type referenceType referenceId idempotencyKey =
      .ok wallet') : wallet.entries <+: wallet'.entries := by
  unfold Wallet.debitWallet at h
  repeat' split at h
  all_goals cases h
  · exact List.prefix_rfl
  all_goals exact List.prefix_append _ _

theorem settleWallet_extends {walletRequired : ℤ}
    (h : settleWallet config s walletRequired = .ok s') : Extends s s' := by
  unfold settleWallet at h
  split at h
  · cases h
    exact .refl s
  split at h
  · cases h
  split at h
  next wallet hdebit =>
    cases h
    exact { Extends.refl s with wallet := debitWallet_entries hdebit }
  · cases h

theorem walletRefund_extends {walletPaise : ℤ}
    (h : walletRefund config s payment walletPaise = .ok s') : Extends s s' := by
  unfold walletRefund at h
  split at h
  · split at h
    next wallet hcredit =>
      cases h
      refine { Extends.refl s with wallet := ?_ }
      rw [(Wallet.creditWallet_eq_ok hcredit).2]
      exact List.prefix_append _ _
    · cases h
  · cases h
    exact .refl s

theorem verifyTransaction_extends {dto : VerifyPaymentDto} {gatewayPaid walletRequired : ℤ}
    (h : verifyTransaction config s payment dto gatewayPaid walletRequired = .ok s') :
    Extends s s' := by
  simp only [verifyTransaction, bind, bind_eq_ok] at h
  obtain ⟨s₁, hwallet, h⟩ := h
  have hsettled := settleWallet_extends hwallet
  split at h
  · cases h
  · simp only [bind_eq_ok] at h
    obtain ⟨s₂, hjournal, hcoupon⟩ := h
    obtain ⟨ledger, receipt, hrecord, rfl⟩ := recordPaymentLedgerJournal_eq_ok hjournal
    obtain ⟨coupon, couponUsages, rfl⟩ := redeemCoupon_eq_ok hcoupon
    have hpaid := (hsettled.setPayment
      { payment with status := .paid, razorpayPaymentId := some dto.razorpayPaymentId }).audit
      ⟨"PAYMENT_VERIFIED", some payment.status, .paid, some s.totalExpected,
        some dto.razorpayPaymentId, "CUSTOMER"⟩
    have hheld := hpaid.holdDeposit dto.razorpayPaymentId
    exact { hheld.recordJournal hrecord with }

theorem verifyPayment_extends (customerId : Id) (dto : VerifyPaymentDto) (signatureValid : Bool)
    (fetch : PaymentFetch) :
    Extends s (verifyPayment config s customerId dto signatureValid fetch).1 := by
  unfold verifyPayment
  repeat' split
  all_goals first
    | exact .refl s
    | exact (Extends.refl s).setPayment _
    | exact verifyTransaction_extends ‹_›

theorem gatewayRefund_extends {gatewayPaise : ℤ} {answer : GatewayRefundAnswer} {mockId : String}
    {refundId : GatewayRefundId} {status : RefundStatus}
    (h : gatewayRefund config s payment gatewayPaise answer mockId = .ok (s', refundId, status)) :
    Extends s s' := by
  have hadds : ∀ {paise status}, AddsRefund s s' paise status → Extends s s' := by
    rintro paise status ⟨refund, -, -, rfl⟩
    exact { Extends.refl s with gatewayRefunds := by simp }
  rcases gatewayRefund_cases h with ⟨-, -, -, rfl⟩ | ⟨-, -, -, -, hadded⟩ |
    ⟨-, -, -, -, -, -, ⟨-, rfl⟩ | ⟨-, hadded⟩⟩
  · exact .refl _
  · exact hadds hadded
  · exact .refl _
  · exact hadds hadded

theorem recordRefund_extends (h : Extends s s') (refundPaise : ℤ) (idempotencyKey : String)
    (requestedByUserId : Option Id) (refundId : GatewayRefundId) (status : RefundStatus) :
    Extends s (recordRefund s' payment refundPaise idempotencyKey requestedByUserId refundId
      status) := by
  refine { (h.setPayment _).audit _ with refunds := h.refunds.trans ?_ }
  change _ <+: if s'.refunds.any (fun row => row.gatewayRefundId = some refundId) = true then
    s'.refunds else s'.refunds ++ _
  split
  · exact List.prefix_rfl
  · exact List.prefix_append _ _

theorem refund_extends (request : RefundRequest) (answer : GatewayRefundAnswer)
    (mockId : String) : Extends s (refund config s request answer mockId).1 := by
  unfold refund
  split
  · exact .refl s
  split
  · exact .refl s
  split
  · exact (Extends.refl s).setPayment _
  split
  · exact .refl s
  dsimp only
  split
  · exact .refl s
  split
  · exact .refl s
  next hgateway =>
    have hsent := gatewayRefund_extends hgateway
    split
    · exact hsent
    next hwallet => exact recordRefund_extends (hsent.trans (walletRefund_extends hwallet)) ..

theorem extends_of_refund {t : Checkout} {request : RefundRequest} {answer : GatewayRefundAnswer}
    {mockId : String} {reply : Except HttpError RefundReply} (h : Extends s t)
    (hrefund : refund config t request answer mockId = (s', reply)) : Extends s s' := by
  have hrefunded : Extends t (refund config t request answer mockId).1 := refund_extends ..
  rw [hrefund] at hrefunded
  exact h.trans hrefunded

theorem releaseDeposit_extends (answer : GatewayRefundAnswer) (mockId : String) :
    Extends s (releaseDeposit config s answer mockId).1 := by
  have hsettle : ∀ {t : Checkout} (deposit : SecurityDeposit) (paise : ℤ)
      (refundId : Option GatewayRefundId), Extends s t →
      Extends s (settleRelease t deposit paise refundId) := by
    intro t deposit paise refundId h
    unfold settleRelease
    dsimp only
    split
    next hrecord => exact (h.setDeposit _).recordJournal hrecord
    · exact h.setDeposit _
  unfold releaseDeposit
  split
  · exact .refl s
  split
  · exact .refl s
  dsimp only
  split
  · exact .refl s
  next deposit _ _ _ =>
    have hclaimed := fun released => (Extends.refl s).setDeposit released
    split
    · exact hsettle _ _ _ (hclaimed _)
    split
    next hrefund => exact hsettle _ _ _ (extends_of_refund (hclaimed _) hrefund)
    next hrefund => exact (extends_of_refund (hclaimed _) hrefund).setDeposit _

theorem settleDeduction_extends (deductAmount : Decimal) (answer : GatewayRefundAnswer)
    (mockId : String) : Extends s (settleDeduction config s deductAmount answer mockId).1 := by
  have hfinish : ∀ {t : Checkout} (operation : DepositOperation)
      (refundId : Option GatewayRefundId), Extends s t →
      Extends s (finishSettlement t operation refundId) := by
    intro t operation refundId h
    unfold finishSettlement
    dsimp only
    split
    next hrecord => exact { h.recordJournal hrecord with }
    · exact { h with }
  unfold settleDeduction
  split
  · exact .refl s
  split
  · exact .refl s
  dsimp only
  have hclaimed := fun claimed => (Extends.refl s).setDeposit claimed
  split
  · split
    next hrefund => exact hfinish _ _ (extends_of_refund (hclaimed _) hrefund)
    next hrefund => exact (extends_of_refund (hclaimed _) hrefund).setDeposit _
  · exact hfinish _ _ (hclaimed _)

theorem executeReturn_extends (trip : RentedTrip) (request : ReturnRequest)
    (otpFound completes : Bool) : Extends s (executeReturn s trip request otpFound completes).1 := by
  have hdeposit : ∀ charges, Extends s (settleReturnDeposit s charges).1 := by
    intro charges
    unfold settleReturnDeposit
    split
    · exact .refl s
    split
    · exact (Extends.refl s).setDeposit _
    · exact .refl s
  unfold executeReturn
  dsimp only
  repeat' split
  all_goals first | exact .refl s | exact { hdeposit _ with }

theorem webhookRun_extends {eventId : String} {event : WebhookEvent}
    (hs' : s' ∈ (webhookRun s eventId event).1) : Extends s s' := by
  have hupdate : ∀ {payment : Payment} {entry : PaymentAuditEntry},
      s' ∈ (updateRun s payment entry).1 → Extends s s' := by
    intro payment entry h
    simp only [updateRun, List.mem_cons, List.not_mem_nil, or_false] at h
    rcases h with rfl | rfl
    · exact (Extends.refl s).setPayment payment
    · exact ((Extends.refl s).setPayment payment).audit entry
  have hvendor : ∀ {orderId : OrderId} {paymentId : String},
      s' ∈ (vendorDepositRun s orderId paymentId).1 → Extends s s' := by
    intro orderId paymentId h
    unfold vendorDepositRun at h
    split at h
    · cases h
    split at h
    · simp only at h
      split at h
      · cases h
      · rw [List.mem_singleton] at h
        subst h
        exact { Extends.refl s with }
    · cases h
  have hcapture : ∀ {captured : Checkout} {payment : Payment} {paymentId : String},
      captureTransaction s payment paymentId = .ok captured → Extends s captured := by
    intro captured payment paymentId h
    obtain ⟨ledger, receipt, hrecord, rfl⟩ := recordPaymentLedgerJournal_eq_ok h
    exact (((Extends.refl s).setPayment _).audit _).recordJournal hrecord
  cases event with
  | paymentCaptured orderId paymentId amount currency =>
    cases orderId with
    | none => cases hs'
    | some orderId =>
      simp only [webhookRun, capturedRun] at hs'
      split at hs'
      · exact hvendor hs'
      split at hs'
      · cases hs'
      split at hs'
      · cases hs'
      split at hs'
      · rw [List.mem_singleton] at hs'
        subst hs'
        exact (Extends.refl s).markProcessed eventId
      split at hs'
      · cases hs'
      next htransaction =>
        simp only [List.mem_cons, List.not_mem_nil, or_false] at hs'
        rcases hs' with rfl | rfl
        · exact hcapture htransaction
        · exact (hcapture htransaction).markProcessed eventId
  | paymentFailed | paymentAuthorized | refundProcessed | refundCreated =>
    simp only [webhookRun, failedRun, authorizedRun, refundProcessedRun, refundCreatedRun] at hs'
    repeat' split at hs'
    all_goals first | cases hs'; done | exact hupdate hs'
  | refundFailed =>
    simp only [webhookRun, refundFailedRun] at hs'
    split at hs'
    · cases hs'
    · rw [List.mem_singleton] at hs'
      subst hs'
      exact (Extends.refl s).setPayment _
  | ignored => cases hs'

theorem handleWebhook_extends (eventId : String) (event : WebhookEvent) :
    Extends s (handleWebhook s eventId event).1 := by
  unfold handleWebhook
  split
  · exact .refl s
  have hrecorded : Extends s (recordEvent s eventId) :=
    { Extends.refl s with events := by simp [recordEvent] }
  dsimp only
  rcases List.mem_cons.mp (List.getLastD_mem_cons
    (l := (webhookRun (recordEvent s eventId) eventId event).1) (a := recordEvent s eventId))
    with hlast | hmem
  · rw [hlast]
    exact hrecorded
  · exact hrecorded.trans (webhookRun_extends hmem)

theorem paymentStep_extends (action : PaymentAction) : Extends s (paymentStep config s action) := by
  cases action with
  | createOrder => exact createOrder_extends ..
  | verifyPayment => exact verifyPayment_extends ..
  | webhook => exact handleWebhook_extends ..
  | refund => exact refund_extends ..
  | adminRefund dto adminId isAdmin generatedKey answer mockId =>
    rw [paymentStep]
    rcases adminRefund_cases config s dto adminId isAdmin generatedKey answer mockId with
      ⟨-, e, hrefused⟩ | ⟨request, -, hrefund⟩
    · rw [hrefused]
      exact .refl s
    · rw [hrefund]
      exact refund_extends ..

theorem gatewaySettles_extends (event : WebhookEvent) : Extends s (gatewaySettles s event) := by
  have hsettle : ∀ (refundId : String) (status : RefundStatus),
      (s.gatewayRefunds.map (GatewayRefund.settle refundId status)).map (·.id) =
        s.gatewayRefunds.map (·.id) := by
    intro refundId status
    rw [List.map_map]
    refine List.map_congr_left fun row _ => ?_
    simp only [Function.comp, GatewayRefund.settle]
    split <;> rfl
  cases event with
  | refundProcessed | refundFailed =>
    exact { Extends.refl s with gatewayRefunds := hsettle _ _ ▸ List.prefix_rfl }
  | _ => exact .refl s

theorem depositStep_extends (action : DepositAction) :
    Extends s (depositStep config s action) := by
  cases action with
  | payment action => exact paymentStep_extends action
  | gatewaySettles event => exact gatewaySettles_extends event
  | releaseDeposit => exact releaseDeposit_extends ..
  | settleDeduction => exact settleDeduction_extends ..
  | executeReturn => exact executeReturn_extends ..
  | holdDeposit | recordCollateral | setStatus => exact { Extends.refl s with }

end Calls

/-- In a history of a checkout every record, as it stands after some of the calls, is a beginning
of what it is after any calls that follow. -/
theorem history_kept (config : PaymentConfig) (s : Checkout) (first later : List DepositAction) :
    Extends (run (depositStep config) s first) (run (depositStep config) s (first ++ later)) := by
  have hlater : Along (depositStep config) (fun _ _ => True) (run (depositStep config) s first)
      later := along_true _ later
  rw [run_append]
  exact hlater.invariant (fun _ action h _ => h.trans (depositStep_extends action)) (.refl _)

end CarRental
